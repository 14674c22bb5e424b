import FormLetter.Archive.Basic
import FormLetter.Archive.Checksum
import FormLetter.Archive.Deflate

/-!
# Archives as bytes

An archive is written entry by entry, each with a head of its own; behind them all stands the list
of the entries, and behind it a record that says where the list is. It is read from its end. Bytes
before the first entry do not count, so all positions are corrected by their number. What cannot be
read, or whose sum is not the one that the list has, is no archive.
-/

namespace FormLetter.Archive

/-! ## Names -/

/-- The characters that stand for the bytes from 128 on in a name that does not say how it is
written. -/
def namePage : String :=
  "ÇüéâäàåçêëèïîìÄÅÉæÆôöòûùÿÖÜ¢£¥₧ƒáíóúñÑªº¿⌐¬½¼¡«»░▒▓│┤╡╢╖╕╣║╗╝╜╛┐└┴┬├─┼╞╟╚╔╩╦╠═╬╧╨╤╥╙╘╒╓╫╪┘┌█▄▌▐▀"
    ++ "αßΓπΣσµτΦΘΩδ∞φε∩≡±≥≤⌠⌡÷≈°∙·√ⁿ²■\u00A0"

/-- The flag of names that are written in UTF-8. -/
def unicodeFlag : Nat := 0x800

/-- The flag of contents that are not to be read by everyone. -/
def secretFlag : Nat := 1

/-- Reads a name. -/
def readName? (flags : Nat) (bytes : ByteArray) : Option String :=
  let read : Option String :=
    if flags &&& unicodeFlag != 0 then String.fromUTF8? bytes
    else (bytes.data.toList.mapM fun byte : UInt8 =>
      if byte < 128 then some (Char.ofNat byte.toNat)
      else namePage.toList[byte.toNat - 128]?).map String.ofList
  read.map keptName

/-! ## Times -/

/-- The time that two numbers of 16 bits stand for. -/
def Moment.ofNumbers (date time : Nat) : Moment :=
  { year := 1980 + (date >>> 9), month := (date >>> 5) % 16, day := date % 32
    hour := time >>> 11, minute := (time >>> 5) % 64, second := time % 32 * 2 }

/-- The number that a date is written as. -/
def Moment.date (moment : Moment) : Nat :=
  ((moment.year - 1980) <<< 9) + (moment.month <<< 5) + moment.day

/-- The number that a time of day is written as. -/
def Moment.time (moment : Moment) : Nat :=
  (moment.hour <<< 11) + (moment.minute <<< 5) + moment.second / 2

/-! ## Reading -/

/-- The bytes that the record at the end of an archive begins with. -/
def endMark : List UInt8 := [0x50, 0x4B, 0x05, 0x06]

/-- The size of the record at the end of an archive, without a comment. -/
def endSize : Nat := 22

/-- How far before the end of an archive its record may begin. -/
def endReach : Nat := endSize + 65536

/-- The last record in some bytes: it and all bytes behind it. -/
def lastEnd? : List UInt8 → Option (List UInt8)
  | [] => none
  | byte :: rest =>
    match lastEnd? rest with
    | some found => some found
    | none => if endMark.isPrefixOf (byte :: rest) then some (byte :: rest) else none

/-- The number that some bytes stand for, the least significant one first. -/
def number (bytes : List UInt8) : Nat :=
  bytes.foldr (fun byte sum => byte.toNat + 256 * sum) 0

/-- The number that stands at a place in some bytes. -/
def numberAt (bytes : ByteArray) (start width : Nat) : Nat :=
  number (bytes.extract start (start + width)).data.toList

/-- True when some bytes have a mark at a place. -/
def isMarked (mark : List UInt8) (bytes : ByteArray) (start : Nat) : Bool :=
  (bytes.extract start (start + mark.length)).data.toList == mark

/-- The bytes that the head of an entry begins with. -/
def entryMark : List UInt8 := [0x50, 0x4B, 0x03, 0x04]

/-- The bytes that an entry of the list begins with. -/
def listMark : List UInt8 := [0x50, 0x4B, 0x01, 0x02]

/-- The size of the head of an entry, without its name. -/
def entrySize : Nat := 30

/-- The size of an entry of the list, without its name. -/
def listSize : Nat := 46

/-- The method that a number stands for. -/
def Method.ofNumber? : Nat → Option Method
  | 0 => some .stored
  | 8 => some .deflated
  | _ => none

/-- The number of a method. -/
def Method.number : Method → Nat
  | stored => 0
  | deflated => 8

/-- Reads the entry whose place in the list and whose head are given. -/
def entryAt? (bytes : ByteArray) (place head : Nat) : Option Entry := do
  let flags := numberAt bytes (place + 8) 2
  let nameSize := numberAt bytes (place + 28) 2
  let name := bytes.extract (place + listSize) (place + listSize + nameSize)
  let headName := numberAt bytes (head + 26) 2
  let start := head + entrySize + headName + numberAt bytes (head + 28) 2
  let stop := start + numberAt bytes (place + 20) 4
  let headText := bytes.extract (head + entrySize) (head + entrySize + headName)
  guard (isMarked entryMark bytes head && flags &&& secretFlag == 0)
  guard (headText.data == name.data && stop ≤ bytes.size)
  let method ← Method.ofNumber? (numberAt bytes (place + 10) 2)
  let packed := bytes.extract start stop
  let content ← match method with
    | .stored => some packed
    | .deflated => Deflate.unpack? packed
  guard (content.size == numberAt bytes (place + 24) 4)
  guard ((checksum content).toNat == numberAt bytes (place + 16) 4)
  let moment := Moment.ofNumbers (numberAt bytes (place + 14) 2) (numberAt bytes (place + 12) 2)
  return ⟨← readName? flags name, ⟨method, numberAt bytes (place + 38) 4, moment⟩, content⟩

/-- Reads the entries of the list from a place on. `base` is where the positions in it count from,
as far as it lies behind the `lead` that they are too great by. -/
def entriesFrom? (bytes : ByteArray) (base lead stop : Nat) : Nat → Nat → Option Archive
  | 0, _ => none
  | fuel + 1, place =>
    if stop ≤ place then some []
    else do
      guard (place + listSize ≤ stop && isMarked listMark bytes place)
      let head := base + numberAt bytes (place + 42) 4
      guard (lead ≤ head)
      let entry ← entryAt? bytes place (head - lead)
      let size := listSize + numberAt bytes (place + 28) 2 + numberAt bytes (place + 30) 2
        + numberAt bytes (place + 32) 2
      return entry :: (← entriesFrom? bytes base lead stop fuel (place + size))

/-- Where the record at the end of an archive begins. -/
def endOf? (bytes : ByteArray) : Option Nat := do
  let record ← lastEnd? (bytes.extract (bytes.size - endReach) bytes.size).data.toList
  if endSize ≤ record.length then return bytes.size - record.length else none

/-- The archive that some bytes are, if they are one. -/
def ofBytes? (bytes : ByteArray) : Option Archive := do
  let stop ← endOf? bytes
  let size := numberAt bytes (stop + 12) 4
  guard (size ≤ stop)
  let start := stop - size
  entriesFrom? bytes start (numberAt bytes (stop + 16) 4) stop (size + 1) start

/-! ## Writing -/

/-- A number in some bytes, the least significant one first. -/
def little : Nat → Nat → List UInt8
  | 0, _ => []
  | width + 1, number => number.toUInt8 :: little width (number / 256)

/-- What the head of an entry and its place in the list have in common. -/
def shared (entry : Entry) (packed : ByteArray) : List UInt8 :=
  let isPlain := entry.name.toList.all (·.toNat < 128)
  little 2 20 ++ little 2 (if isPlain then 0 else unicodeFlag)
    ++ little 2 entry.info.method.number ++ little 2 entry.info.moment.time
    ++ little 2 entry.info.moment.date ++ little 4 (checksum entry.content).toNat
    ++ little 4 packed.size ++ little 4 entry.content.size
    ++ little 2 entry.name.utf8ByteSize ++ little 2 0

/-- The number of the system whose attributes the entries have. -/
def systemNumber : Nat := 3

/-- An archive that is being written: the entries, and the list of them. -/
structure Draft where
  entries : ByteArray
  list : ByteArray

/-- Writes one entry. -/
def Draft.add (draft : Draft) (entry : Entry) : Draft :=
  let packed := match entry.info.method with
    | .stored => entry.content
    | .deflated => Deflate.pack entry.content
  let shared := shared entry packed
  let head := entryMark ++ shared
  let place := listMark ++ little 1 20 ++ little 1 systemNumber ++ shared ++ little 6 0
    ++ little 4 entry.info.attributes ++ little 4 draft.entries.size
  { entries := draft.entries ++ ⟨head.toArray⟩ ++ entry.name.toUTF8 ++ packed
    list := draft.list ++ ⟨place.toArray⟩ ++ entry.name.toUTF8 }

/-- The bytes of an archive. -/
def toBytes (archive : Archive) : ByteArray :=
  let draft := archive.foldl Draft.add ⟨.empty, .empty⟩
  let record := endMark ++ little 4 0 ++ little 2 archive.length ++ little 2 archive.length
    ++ little 4 draft.list.size ++ little 4 draft.entries.size ++ little 2 0
  draft.entries ++ draft.list ++ ⟨record.toArray⟩

end FormLetter.Archive
