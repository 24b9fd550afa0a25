import Mathlib.Logic.Relation
import OrderedChoice.Proofs.Assurance

/-!
# Cross references

What a matcher mentions is listed twice: as texts, kinds among them, and as structures. Both lists
tell of the same references, whatever the names are, for the text of a structure never reads like
that of a kind. So what a registry lists of dependencies, of dependents and of what a root reaches
is one relation, seen from three sides (`cross_references_agree`).
-/

namespace OrderedChoice

open Relation (ReflTransGen)

variable {g : Grammar} {registry : Registry} {m : Matcher} {s t : Structure} {name : String}

/-! ## Matchers -/

namespace Matcher

/-- The matcher refers to the structure somewhere. -/
inductive RefersTo (target : Structure) : Matcher → Prop where
  | sub : RefersTo target (.sub target)
  | optional {body : Matcher} (inside : RefersTo target body) : RefersTo target (.optional body)
  | star {body : Matcher} (inside : RefersTo target body) : RefersTo target (.star body)
  | sequence {a b part : Matcher} {rest : List Matcher} (isPart : part ∈ a :: b :: rest)
      (inside : RefersTo target part) : RefersTo target (.sequence a b rest)
  | choice {a b branch : Matcher} {rest : List Matcher} (isBranch : branch ∈ a :: b :: rest)
      (inside : RefersTo target branch) : RefersTo target (.choice a b rest)

theorem mem_references_iff : t ∈ m.references ↔ m.RefersTo t := by
  induction m with
  | statement kind => exact iff_of_false List.not_mem_nil nofun
  | sub target =>
    rw [references, List.mem_singleton]
    constructor
    · rintro rfl
      exact .sub
    · rintro ⟨⟩
      rfl
  | optional body ih =>
    refine ih.trans ⟨.optional, ?_⟩
    rintro ⟨⟩
    assumption
  | star body ih =>
    refine ih.trans ⟨.star, ?_⟩
    rintro ⟨⟩
    assumption
  | sequence a b rest ih =>
    rw [references_sequence, List.mem_flatMap]
    constructor
    · rintro ⟨part, isPart, member⟩
      exact .sequence isPart ((ih part isPart).1 member)
    · rintro (_ | _ | _ | ⟨isPart, inside⟩)
      exact ⟨_, isPart, (ih _ isPart).2 inside⟩
  | choice a b rest ih =>
    rw [references_choice, List.mem_flatMap]
    constructor
    · rintro ⟨branch, isBranch, member⟩
      exact .choice isBranch ((ih branch isBranch).1 member)
    · rintro (_ | _ | _ | _ | ⟨isBranch, inside⟩)
      exact ⟨_, isBranch, (ih _ isBranch).2 inside⟩

end Matcher

theorem Structure.startsWith_qualifiedName (target : Structure) :
    target.qualifiedName.startsWith "structure/" = true := by
  rw [String.startsWith_string_iff, qualifiedName, String.toList_append]
  exact List.prefix_append _ _

/-- The texts part at their third letter. -/
theorem Kind.startsWith_qualifiedName (kind : Kind) :
    kind.qualifiedName.startsWith "structure/" = false := by
  rw [← Bool.not_eq_true, String.startsWith_string_iff, qualifiedName, String.toList_append]
  rintro ⟨after, same⟩
  have third : some 'r' = some 'a' := congrArg (·[2]?) same
  exact absurd third (by decide)

theorem Structure.qualifiedName_inj : s.qualifiedName = "structure/" ++ name ↔ s.name = name :=
  String.append_right_inj _

namespace Matcher

/-- Of all that is mentioned, the texts of structures are those of the references, in order and with
repetitions. -/
theorem filter_mentions (m : Matcher) :
    m.mentions.filter (·.startsWith "structure/") = m.references.map (·.qualifiedName) := by
  have ofParts {parts : List Matcher} (each : ∀ part ∈ parts,
      part.mentions.filter (·.startsWith "structure/") = part.references.map (·.qualifiedName)) :
      (parts.flatMap mentions).filter (·.startsWith "structure/") =
        (parts.flatMap references).map (·.qualifiedName) := by
    rw [List.filter_flatMap, List.map_flatMap]
    exact List.flatMap_congr each
  induction m with
  | statement kind => rw [mentions, List.filter_singleton, kind.startsWith_qualifiedName]; rfl
  | sub target => rw [mentions, List.filter_singleton, target.startsWith_qualifiedName]; rfl
  | optional body ih => exact ih
  | star body ih => exact ih
  | sequence a b rest ih =>
    rw [mentions_sequence, references_sequence]
    exact ofParts ih
  | choice a b rest ih =>
    rw [mentions_choice, references_choice]
    exact ofParts ih

theorem mem_mentions_iff :
    "structure/" ++ name ∈ m.mentions ↔ ∃ t, m.RefersTo t ∧ t.name = name := by
  have isText : ("structure/" ++ name).startsWith "structure/" = true :=
    Structure.startsWith_qualifiedName ⟨name, name⟩
  have listed : "structure/" ++ name ∈ m.mentions ↔
      "structure/" ++ name ∈ m.references.map (·.qualifiedName) := by
    rw [← filter_mentions, List.mem_filter, and_iff_left isText]
  rw [listed, List.mem_map]
  exact exists_congr fun t => and_congr mem_references_iff Structure.qualifiedName_inj

end Matcher

/-! ## Lists without repetitions -/

/-- The list has the members of another one, each once, in the order in which they first occur
there. -/
structure FirstOccurrences (entries all : List String) : Prop where
  mem_iff : ∀ entry, entry ∈ entries ↔ entry ∈ all
  nodup : entries.Nodup
  ordered : entries.Pairwise fun a b => all.idxOf a < all.idxOf b

/-- Leaving out other members does not change which of two comes first. -/
theorem idxOf_lt_of_filter {p : String → Bool} {a b : String} (ha : p a = true) (hb : p b = true)
    (all : List String) (lt : (all.filter p).idxOf a < (all.filter p).idxOf b) :
    all.idxOf a < all.idxOf b := by
  induction all with
  | nil => exact lt
  | cons c all ih =>
    by_cases keep : p c = true
    · rw [List.filter_cons_of_pos keep] at lt
      by_cases isB : c = b
      · rw [isB, List.idxOf_cons_self] at lt
        omega
      by_cases isA : c = a
      · rw [isA, List.idxOf_cons_self, List.idxOf_cons_ne _ (isA ▸ isB)]
        exact Nat.succ_pos _
      rw [List.idxOf_cons_ne _ isA, List.idxOf_cons_ne _ isB] at lt ⊢
      exact Nat.succ_lt_succ (ih (Nat.lt_of_succ_lt_succ lt))
    · have other {d : String} (hd : p d = true) : c ≠ d := by
        rintro rfl
        exact keep hd
      rw [List.filter_cons_of_neg keep] at lt
      rw [List.idxOf_cons_ne _ (other ha), List.idxOf_cons_ne _ (other hb)]
      exact Nat.succ_lt_succ (ih lt)

/-- By induction on the length, for what follows the first member is filtered. -/
theorem pairwise_eraseDups (all : List String) :
    all.eraseDups.Pairwise fun a b => all.idxOf a < all.idxOf b := by
  induction length : all.length using Nat.strongRecOn generalizing all with
  | ind n ih =>
    cases all with
    | nil => exact .nil
    | cons first all =>
      rw [List.eraseDups_cons, List.pairwise_cons]
      have kept {a : String} (member : a ∈ (all.filter fun b => !b == first).eraseDups) :
          (!a == first) = true :=
        (List.mem_filter.1 (List.mem_eraseDups.1 member)).2
      have other {a : String} (member : a ∈ (all.filter fun b => !b == first).eraseDups) :
          first ≠ a := by
        rintro rfl
        simpa using kept member
      constructor
      · intro a member
        rw [List.idxOf_cons_self, List.idxOf_cons_ne _ (other member)]
        exact Nat.succ_pos _
      · have shorter := List.length_filter_le (fun b => !b == first) all
        have rest :=
          ih _ (by rw [← length, List.length_cons]; omega) (all.filter fun b => !b == first) rfl
        refine rest.imp_of_mem fun {a b} ha hb lt => ?_
        rw [List.idxOf_cons_ne _ (other ha), List.idxOf_cons_ne _ (other hb)]
        exact Nat.succ_lt_succ (idxOf_lt_of_filter (kept ha) (kept hb) all lt)

theorem firstOccurrences_eraseDups (all : List String) : FirstOccurrences all.eraseDups all where
  mem_iff _ := List.mem_eraseDups
  nodup := by
    refine List.Pairwise.imp ?_ (pairwise_eraseDups all)
    rintro a b lt rfl
    exact Nat.lt_irrefl _ lt
  ordered := pairwise_eraseDups all

/-! ## What a registry lists -/

/-- What the body of a structure mentions; nothing if the body is malformed. -/
def Grammar.mentioned (g : Grammar) (s : Structure) : List String :=
  match g.body s with
  | .ok m => m.mentions
  | .error _ => []

theorem Grammar.mentioned_of_body (body : g.body s = .ok m) : g.mentioned s = m.mentions := by
  rw [mentioned, body]

theorem mapM_eq_ok {α β ε : Type} {f : α → Except ε β} {f' : α → β} {items : List α}
    (each : ∀ item ∈ items, f item = .ok (f' item)) : items.mapM f = .ok (items.map f') := by
  induction items with
  | nil => rfl
  | cons item items ih =>
    obtain ⟨first, others⟩ := List.forall_mem_cons.1 each
    rw [List.mapM_cons, first, ih others]
    rfl

theorem filterM_eq_ok {α ε : Type} {f : α → Except ε Bool} {p : α → Bool} {items : List α}
    (each : ∀ item ∈ items, f item = .ok (p item)) : items.filterM f = .ok (items.filter p) := by
  have onto :
      ∀ kept : List α, items.filterAuxM f kept = .ok ((items.filter p).reverse ++ kept) := by
    induction items with
    | nil => exact fun _ => rfl
    | cons item items ih =>
      intro kept
      obtain ⟨first, others⟩ := List.forall_mem_cons.1 each
      rw [List.filterAuxM, first]
      refine (ih others _).trans ?_
      cases keep : p item <;> simp [keep]
  rw [List.filterM, onto, List.append_nil]
  exact congrArg Except.ok (List.reverse_reverse _)

/-- Under a name that no two structures share, there is what its structure has. -/
theorem lookup_map_name (entries : Structure → List String) {targets : List Structure}
    (nodup : (targets.map (·.name)).Nodup) (member : s ∈ targets) :
    (targets.map fun t => (t.name, entries t)).lookup s.name = some (entries s) := by
  induction targets with
  | nil => cases member
  | cons target targets ih =>
    rw [List.map_cons, List.nodup_cons] at nodup
    rw [List.map_cons]
    rcases List.mem_cons.1 member with rfl | later
    · exact List.lookup_cons_self
    · have other : s.name ≠ target.name := fun same => nodup.1 (same ▸ List.mem_map_of_mem later)
      rw [List.lookup_cons, beq_false_of_ne other]
      exact ih nodup.2 later

section Listed

variable (wellFormed : ∀ s ∈ registry.structures, ∃ m, g.body s = .ok m)

include wellFormed

theorem dependencies_eq_ok : registry.dependencies g =
    .ok (registry.structures.map fun s => (s.name, (g.mentioned s).eraseDups)) := by
  refine mapM_eq_ok fun s member => ?_
  obtain ⟨m, body⟩ := wellFormed s member
  rw [body, Grammar.mentioned_of_body body]
  rfl

theorem dependents_eq_ok (name : String) : registry.dependents g name =
    .ok ((registry.structures.filter fun s =>
        (g.mentioned s).contains ("structure/" ++ name)).map (·.name)) := by
  have filtered : registry.structures.filterM (fun s => do
      return (← g.body s).mentions.contains ("structure/" ++ name)) =
      .ok (registry.structures.filter fun s =>
        (g.mentioned s).contains ("structure/" ++ name)) := by
    refine filterM_eq_ok fun s member => ?_
    obtain ⟨m, body⟩ := wellFormed s member
    rw [body, Grammar.mentioned_of_body body]
    rfl
  rw [Registry.dependents, filtered]
  rfl

end Listed

/-! ## Following the lists -/

/-- By the listed dependencies, the structure of the first name refers to one of the second. -/
def DependsOn (listed : List (String × List String)) (a b : String) : Prop :=
  ∃ entries, listed.lookup a = some entries ∧ "structure/" ++ b ∈ entries

/-- The dependencies lead from name to name as references lead from structure to structure. -/
theorem reflTransGen_dependsOn_iff {listed : List (String × List String)} {root : Structure}
    (refers : ∀ s, g.Reaches root s → ∀ name,
      DependsOn listed s.name name ↔ ∃ t ∈ g.successors s, t.name = name) :
    ReflTransGen (DependsOn listed) root.name name ↔ ∃ s, g.Reaches root s ∧ s.name = name := by
  constructor
  · intro path
    induction path with
    | refl => exact ⟨root, .refl, rfl⟩
    | tail _ last ih =>
      obtain ⟨s, reaches, rfl⟩ := ih
      obtain ⟨t, member, rfl⟩ := (refers s reaches _).1 last
      exact ⟨t, .step reaches member, rfl⟩
  · rintro ⟨s, reaches, rfl⟩
    induction reaches with
    | refl => exact .refl
    | step before member ih => exact .tail ih ((refers _ before _).2 ⟨_, member, rfl⟩)

/-- A registry of well-formed structures lists, for each of them, what it mentions, once and in the
order of first occurrence, and for each name, in the order of registration, the structures that
refer to one of that name. Whatever the names are, both say the same: which matcher refers to which
name. The structures that a validation walks, if all of them are registered, are those that the
listed dependencies lead to. -/
theorem cross_references_agree (wellFormed : ∀ s ∈ registry.structures, ∃ m, g.body s = .ok m) :
    (∀ m : Matcher,
      m.mentions.filter (·.startsWith "structure/") = m.references.map (·.qualifiedName)) ∧
    ∃ listed, registry.dependencies g = .ok listed ∧ listed.map (·.1) = registry.names ∧
      (∀ s ∈ registry.structures, ∀ m, g.body s = .ok m →
        ∃ entries, listed.lookup s.name = some entries ∧ FirstOccurrences entries m.mentions ∧
          ∀ name, "structure/" ++ name ∈ entries ↔ ∃ t, m.RefersTo t ∧ t.name = name) ∧
      (∀ name, ∃ users, registry.dependents g name = .ok users ∧ users.Sublist registry.names ∧
        ∀ s ∈ registry.structures, ∀ m, g.body s = .ok m →
          (s.name ∈ users ↔ ∃ t, m.RefersTo t ∧ t.name = name)) ∧
      ∀ root, registry.get? root.name = some root →
        (∀ s, g.Reaches root s → s ∈ registry.structures) →
        ∃ reachable bodies findings, registry.validate g root.name = .ok findings ∧
          Validated registry g root findings reachable bodies ∧
          ∀ name, name ∈ reachable.map (·.name) ↔
            ReflTransGen (DependsOn listed) root.name name := by
  have lookup {s : Structure} (member : s ∈ registry.structures) :=
    lookup_map_name (fun s => (g.mentioned s).eraseDups) registry.names_nodup member
  refine ⟨Matcher.filter_mentions, _, dependencies_eq_ok wellFormed, ?_, ?_, ?_, ?_⟩
  · rw [List.map_map]
    rfl
  · intro s member m body
    refine ⟨_, lookup member, ?_⟩
    rw [Grammar.mentioned_of_body body]
    refine ⟨firstOccurrences_eraseDups _, fun name => ?_⟩
    rw [List.mem_eraseDups, Matcher.mem_mentions_iff]
  · intro name
    refine ⟨_, dependents_eq_ok wellFormed name, List.filter_sublist.map _, ?_⟩
    intro s member m body
    rw [← Matcher.mem_mentions_iff, List.mem_map]
    constructor
    · rintro ⟨t, isUser, same⟩
      obtain ⟨registered, refers⟩ := List.mem_filter.1 isUser
      obtain rfl := List.inj_on_of_nodup_map registry.names_nodup registered member same
      rwa [Grammar.mentioned_of_body body, List.contains_iff_mem] at refers
    · intro refers
      refine ⟨s, List.mem_filter.2 ⟨member, ?_⟩, rfl⟩
      rwa [Grammar.mentioned_of_body body, List.contains_iff_mem]
  · intro root isRoot registered
    have known {s : Structure} (h : registry.Knows g root s) : s ∈ registry.structures :=
      h.elim (registered s) id
    have named : ∀ s t, registry.Knows g root s → registry.Knows g root t →
        s.name = t.name → s = t :=
      fun s t hs ht => List.inj_on_of_nodup_map registry.names_nodup (known hs) (known ht)
    obtain ⟨findings, validated⟩ := exists_validate isRoot named fun s hs => wellFormed s (known hs)
    obtain ⟨reachable, bodies, valid⟩ := validated_of_validate isRoot validated
    refine ⟨reachable, bodies, findings, validated, valid, fun name => ?_⟩
    rw [reflTransGen_dependsOn_iff, List.mem_map]
    · exact exists_congr fun s => and_congr_left' <|
        mem_reachable_iff (fun s t hs ht => named s t (.inl hs) (.inl ht)) valid.found
    · intro s reaches name
      obtain ⟨m, body⟩ := wellFormed s (registered s reaches)
      rw [DependsOn, lookup (registered s reaches), Grammar.mentioned_of_body body,
        Grammar.successors_eq_of_body body]
      simp [Matcher.mem_mentions_iff, Matcher.mem_references_iff]

/-! ## Names that look like others -/

def shelf : Structure :=
  ⟨"shelf", "Shelf"⟩

/-- A structure named like the text of a kind. -/
def book : Structure :=
  ⟨"book", "statement/Book"⟩

def loan : Structure :=
  ⟨"loan", "Loan"⟩

/-- Shelves begin with a kind named like the text of a structure, and hold books, which have shelves
again. -/
def shelves : Grammar :=
  ⟨[⟨shelf, .ok (.sequence (.statement ⟨"structure/Loan"⟩) (.sub book) [.star (.sub book)])⟩,
    ⟨book, .ok (.sequence (.statement ⟨"Book"⟩) (.optional (.sub shelf)) [])⟩,
    ⟨loan, .ok (.sequence (.statement ⟨"Loan"⟩) (.sub book) [])⟩]⟩

def shelfRegistry : Registry :=
  ⟨[loan, shelf, book], by decide⟩

/-- Shelves refer to books, not to loans, and a validation from the shelves on walks the books. -/
theorem cross_references_agree_shelves :
    ∃ listed users reachable entries, shelfRegistry.dependencies shelves = .ok listed ∧
      listed.lookup "Shelf" = some entries ∧ "structure/statement/Book" ∈ entries ∧
      "structure/Loan" ∉ entries ∧
      shelfRegistry.dependents shelves "statement/Book" = .ok users ∧ "Shelf" ∈ users ∧
      shelves.reachable shelf = .ok reachable ∧ "statement/Book" ∈ reachable.map (·.name) := by
  have wellFormed : ∀ s ∈ shelfRegistry.structures, ∃ m, shelves.body s = .ok m := by
    simp only [shelfRegistry, List.forall_mem_cons]
    exact ⟨⟨_, rfl⟩, ⟨_, rfl⟩, ⟨_, rfl⟩, nofun⟩
  obtain ⟨_, listed, areListed, _, onceEach, dependents, walks⟩ := cross_references_agree wellFormed
  have isShelf : shelf ∈ shelfRegistry.structures := by decide
  have refersToBook : ∃ t, Matcher.RefersTo t
      (.sequence (.statement ⟨"structure/Loan"⟩) (.sub book) [.star (.sub book)]) ∧
        t.name = book.name :=
    ⟨book, Matcher.mem_references_iff.1 (by decide), rfl⟩
  obtain ⟨entries, found, _, refers⟩ := onceEach shelf isShelf _ rfl
  obtain ⟨users, areUsers, _, isUser⟩ := dependents book.name
  have closed : ∀ s, shelves.Reaches shelf s → s ∈ shelfRegistry.structures := by
    intro s reaches
    have refersTo : ∀ s ∈ [loan, shelf, book], shelves.successors s ⊆ [loan, shelf, book] := by
      decide
    have known : shelfRegistry.Knows shelves shelf s := .inl reaches
    exact Registry.mem_of_knows isShelf (List.Subset.refl _) refersTo known
  obtain ⟨reachable, _, _, _, valid, walked⟩ := walks shelf rfl closed
  refine ⟨listed, users, reachable, entries, areListed, found, (refers book.name).2 refersToBook,
    ?_, areUsers, (isUser shelf isShelf _ rfl).2 refersToBook, valid.found, ?_⟩
  · intro member
    obtain ⟨t, refersToLoan, same⟩ := (refers loan.name).1 member
    have listed := Matcher.mem_references_iff.2 refersToLoan
    obtain rfl : t = book := by simpa [Matcher.references, Matcher.referencesAll] using listed
    exact absurd same (by decide)
  · exact (walked book.name).2 (.single ⟨entries, found, (refers book.name).2 refersToBook⟩)

end OrderedChoice
