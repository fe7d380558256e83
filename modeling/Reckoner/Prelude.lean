import Reckoner.Environment

/-!
# Reckoner — the prelude

An environment with the functions of the library in it. Every installation brings
functions of its own: they compute the same as those of another one, but are not
equal to them.
-/

namespace Reckoner

/-- The number of identities that an installation takes up. -/
def Prelude.size : Nat := Builtin.all.length

/-- The functions of the library under their names; their identities count up from
a first one. -/
def Prelude.entries (firstIdentity : Nat) : List (String × Value) :=
  (Builtin.all.zipIdx firstIdentity).map fun (f, identity) =>
    (f.name, .function ⟨f.name, f.arity, .builtin f, identity⟩)

/-- The environment with the functions of the library bound in its innermost layer. -/
def Environment.install (env : Environment) (firstIdentity : Nat) : Environment :=
  env.extend (Prelude.entries firstIdentity)

/-- The environment of the functions of the library. -/
def Environment.prelude (firstIdentity : Nat) : Environment :=
  Environment.empty.install firstIdentity

end Reckoner
