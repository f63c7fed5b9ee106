import RoadWeather.Archive.Inflate

/-! # Zip archives

The files of an archive are found through its central directory and inflated when compressed. -/

namespace RoadWeather.Archive

def number (b : ByteArray) (pos : Nat) (n : Nat) : Nat :=
  (List.range n).foldr (fun i v => v * 256 + (b.data.getD (pos + i) 0).toNat) 0

def endRecord? (b : ByteArray) : Option Nat :=
  if b.size < 22 then none
  else
    let last := b.size - 22
    (List.range (min (last + 1) 65558)).find? (fun k => number b (last - k) 4 = 0x06054b50) |>.map
      (last - ·)

/-- A file of the directory. -/
structure Member where
  name : String
  method : Nat
  size : Nat
  header : Nat

def nameText (bytes : ByteArray) : String :=
  match String.fromUTF8? bytes with
  | some s => s
  | none => String.ofList (bytes.data.toList.map fun b => Char.ofNat b.toNat)

def members (b : ByteArray) : Nat → Nat → List Member → Option (List Member)
  | 0, _, acc => some acc.reverse
  | count + 1, pos, acc =>
    if number b pos 4 ≠ 0x02014b50 then none
    else
      let nameLen := number b (pos + 28) 2
      let extraLen := number b (pos + 30) 2
      let commentLen := number b (pos + 32) 2
      let m : Member := {
        name := nameText (b.extract (pos + 46) (pos + 46 + nameLen))
        method := number b (pos + 10) 2
        size := number b (pos + 20) 4
        header := number b (pos + 42) 4 }
      members b count (pos + 46 + nameLen + extraLen + commentLen) (m :: acc)

def directory (b : ByteArray) : Option (List Member) := do
  let e ← endRecord? b
  members b (number b (e + 10) 2) (number b (e + 16) 4) []

def Member.contents (b : ByteArray) (m : Member) : Option ByteArray :=
  if number b m.header 4 ≠ 0x04034b50 then none
  else
    let start := m.header + 30 + number b (m.header + 26) 2 + number b (m.header + 28) 2
    if b.size < start + m.size then none
    else
      let data := b.extract start (start + m.size)
      match m.method with
      | 0 => some data
      | 8 => inflate data
      | _ => none

def files (b : ByteArray) : Option (List (String × ByteArray)) := do
  let ms ← directory b
  ms.mapM fun m => do pure (m.name, ← m.contents b)

end RoadWeather.Archive
