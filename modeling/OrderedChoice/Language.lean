import OrderedChoice.Registry

/-!
# Languages

What it takes to check files of statements: a grammar, the structures that can be asked for by name,
and the words that name the kinds of statements.
-/

namespace OrderedChoice

structure Language where
  grammar : Grammar
  registry : Registry
  kindOf? : String → Option Kind

end OrderedChoice
