/-!
# Archives

A file that holds named entries, each with what is known about it besides its content. An archive
may name an entry more than once; the last one counts.
-/

namespace FormLetter

namespace Archive

/-- How the content of an entry is kept. -/
inductive Method where
  | stored
  | deflated
  deriving DecidableEq, Repr, Inhabited

/-- The written name of a method. -/
def Method.label : Method → String
  | stored => "stored"
  | deflated => "deflated"

/-- The time that an entry bears. -/
structure Moment where
  year : Nat
  month : Nat
  day : Nat
  hour : Nat
  minute : Nat
  second : Nat
  deriving DecidableEq, Repr, Inhabited

/-- The earliest time that an entry can bear. -/
def Moment.earliest : Moment := ⟨1980, 1, 1, 0, 0, 0⟩

/-- A time as archives keep it: its seconds are even. -/
def Moment.kept (moment : Moment) : Moment :=
  { moment with second := moment.second / 2 * 2 }

/-- What is known about an entry besides its name and its content. -/
structure Info where
  method : Method
  attributes : Nat
  moment : Moment
  deriving DecidableEq, Repr, Inhabited

/-- The attributes that are written for an entry that has none: its owner may read and write it. -/
def defaultAttributes : Nat := 0o600 <<< 16

/-- What is written of an entry besides its name and its content. -/
def Info.kept (info : Info) : Info :=
  { info with
    attributes := if info.attributes == 0 then defaultAttributes else info.attributes
    moment := info.moment.kept }

/-- Contents are equal when their bytes are. -/
instance bytesDecidableEq : DecidableEq ByteArray := fun left right =>
  decidable_of_iff (left.data = right.data) ByteArray.ext_iff.symm

/-- One entry of an archive. -/
structure Entry where
  name : String
  info : Info
  content : ByteArray
  deriving DecidableEq

/-- A name as archives keep it: what stands behind a zero does not count. -/
def keptName (name : String) : String := String.ofList (name.toList.takeWhile (· != '\x00'))

/-- An entry as archives keep it. -/
def Entry.kept (entry : Entry) : Entry :=
  { entry with name := keptName entry.name, info := entry.info.kept }

end Archive

/-- The entries of an archive, in the order in which they were written. -/
abbrev Archive := List Archive.Entry

end FormLetter
