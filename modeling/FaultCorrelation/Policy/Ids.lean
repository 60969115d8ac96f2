/-! # Ids for new situations

New situations are named by a supply of ids: a counter and the name for each count. The default
names have the form of a version-4 identifier.
-/

namespace FaultCorrelation

/-- A supply of ids. -/
structure IdSource where
  name : Nat → String
  next : Nat := 1

namespace IdSource

/-- The next id, and the supply without it. -/
def draw (source : IdSource) : String × IdSource :=
  (source.name source.next, { source with next := source.next + 1 })

/-- A count as an identifier: twelve decimal digits behind a fixed beginning. -/
def counterName (n : Nat) : String :=
  let digits := Nat.toDigits 10 n
  "00000000-0000-4000-8000-" ++ String.ofList (List.replicate (12 - digits.length) '0' ++ digits)

/-- The supply that counts from one. -/
def counting : IdSource := { name := counterName }

end IdSource
end FaultCorrelation
