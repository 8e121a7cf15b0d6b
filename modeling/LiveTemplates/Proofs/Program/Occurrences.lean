/-
# LiveTemplates.Proofs.Program.Occurrences -- members and methods in a program

What a program can access stands in it: members that it reads, steps, combines or assigns, and
methods that it calls.  `Program.occurrences` lists them in the order of their places, whether
they are ever reached or not.  An occurrence uses the value of a member, gives a member a value,
or calls a method; stepping and combining do the first two.
-/
import LiveTemplates.Program

namespace LiveTemplates

set_option autoImplicit false

/-- What stands in a program for a member or a method. -/
inductive Occurrence where
  | read (member : String)
  /-- A member that is stepped up or down. -/
  | stepped (member : String)
  /-- A member that is assigned what it gives together with a value. -/
  | combined (member : String)
  /-- A member that is assigned a value. -/
  | assigned (member : String)
  | called (method : String)
deriving Repr, DecidableEq

namespace Occurrence

/-- The member whose value is used. -/
def used? : Occurrence → Option String
  | read member | stepped member | combined member => some member
  | assigned _ | called _ => none

/-- The member that is given a value. -/
def target? : Occurrence → Option String
  | stepped member | combined member | assigned member => some member
  | read _ | called _ => none

end Occurrence

namespace Program

mutual

/-- The members and methods that stand in a program. -/
def occurrences : Program → List Occurrence
  | .literal _ => []
  | .template _ parts => occurrencesAll parts
  | .member name => [.read name]
  | .call method args => .called method :: occurrencesAll args
  | .unary _ argument => argument.occurrences
  | .binary _ left right => left.occurrences ++ right.occurrences
  | .logical _ left right => left.occurrences ++ right.occurrences
  | .conditional test consequent alternate =>
    test.occurrences ++ consequent.occurrences ++ alternate.occurrences
  | .assign name none value => .assigned name :: value.occurrences
  | .assign name (some _) value => .combined name :: value.occurrences
  | .update name _ _ => [.stepped name]
  | .sequence steps => occurrencesAll steps

/-- The members and methods that stand in some programs. -/
def occurrencesAll : List Program → List Occurrence
  | [] => []
  | p :: ps => p.occurrences ++ occurrencesAll ps

end

/-- The members whose values a program can use. -/
def Uses (p : Program) (member : String) : Prop :=
  ∃ c ∈ p.occurrences, c.used? = some member

/-- The members that a program can give a value. -/
def Sets (p : Program) (member : String) : Prop :=
  ∃ c ∈ p.occurrences, c.target? = some member

/-- The methods that a program can call. -/
def Calls (p : Program) (method : String) : Prop :=
  .called method ∈ p.occurrences

theorem uses_iff {p : Program} {member : String} : p.Uses member ↔
    .read member ∈ p.occurrences ∨ .stepped member ∈ p.occurrences ∨
      .combined member ∈ p.occurrences := by
  constructor
  · rintro ⟨c, stands, used⟩
    cases c <;> cases used
    · exact .inl stands
    · exact .inr (.inl stands)
    · exact .inr (.inr stands)
  · rintro (stands | stands | stands)
    all_goals exact ⟨_, stands, rfl⟩

end Program

end LiveTemplates
