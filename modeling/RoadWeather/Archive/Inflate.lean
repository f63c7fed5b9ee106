/-! # Inflating compressed data

Compressed data is a run of blocks, stored, with fixed codes or with codes of their own, the last
one marked. -/

namespace RoadWeather.Archive

/-- A position in a byte string, counted in bits. -/
structure BitReader where
  bytes : ByteArray
  pos : Nat := 0

namespace BitReader

def left (r : BitReader) : Nat := r.bytes.size * 8 - r.pos

def bit (r : BitReader) : Option (Nat × BitReader) :=
  match r.bytes.data[r.pos / 8]? with
  | some b => some (b.toNat / Nat.pow 2 (r.pos % 8) % 2, { r with pos := r.pos + 1 })
  | none => none

def bits : Nat → BitReader → Option (Nat × BitReader)
  | 0, r => some (0, r)
  | n + 1, r => do
    let (b, r) ← r.bit
    let (v, r) ← bits n r
    pure (b + 2 * v, r)

def align (r : BitReader) : BitReader := { r with pos := (r.pos + 7) / 8 * 8 }

def bytesAt (r : BitReader) (n : Nat) : Option (ByteArray × BitReader) :=
  let start := r.pos / 8
  if start + n ≤ r.bytes.size then
    some (r.bytes.extract start (start + n), { r with pos := (start + n) * 8 })
  else none

end BitReader

/-- A Huffman code: how many codes each length from 0 to 15 has, and the symbols in code
order. -/
structure Code where
  counts : Array Nat
  symbols : Array Nat

namespace Code

def ofLengths (lengths : List Nat) : Code :=
  { counts := ((List.range 16).map fun l => (lengths.filter (· = l)).length).toArray
    symbols := ((List.range 15).flatMap fun l =>
      (lengths.zipIdx.filter (·.1 = l + 1)).map (·.2)).toArray }

def decodeFrom (c : Code) : Nat → Nat → Nat → Nat → Nat → BitReader → Option (Nat × BitReader)
  | 0, _, _, _, _, _ => none
  | fuel + 1, len, code, first, index, r => do
    let (b, r) ← r.bit
    let code := code + b
    let count := c.counts.getD len 0
    if code < first + count then
      pure (c.symbols.getD (index + (code - first)) 0, r)
    else
      decodeFrom c fuel (len + 1) (2 * code) (2 * (first + count)) (index + count) r

def decode (c : Code) (r : BitReader) : Option (Nat × BitReader) := decodeFrom c 15 1 0 0 0 r

end Code

def lengthBase : Array Nat :=
  #[3, 4, 5, 6, 7, 8, 9, 10, 11, 13, 15, 17, 19, 23, 27, 31, 35, 43, 51, 59, 67, 83, 99, 115,
    131, 163, 195, 227, 258]

def lengthExtra : Array Nat :=
  #[0, 0, 0, 0, 0, 0, 0, 0, 1, 1, 1, 1, 2, 2, 2, 2, 3, 3, 3, 3, 4, 4, 4, 4, 5, 5, 5, 5, 0]

def distanceBase : Array Nat :=
  #[1, 2, 3, 4, 5, 7, 9, 13, 17, 25, 33, 49, 65, 97, 129, 193, 257, 385, 513, 769, 1025, 1537,
    2049, 3073, 4097, 6145, 8193, 12289, 16385, 24577]

def distanceExtra : Array Nat :=
  #[0, 0, 0, 0, 1, 1, 2, 2, 3, 3, 4, 4, 5, 5, 6, 6, 7, 7, 8, 8, 9, 9, 10, 10, 11, 11, 12, 12,
    13, 13]

def copyBack (out : ByteArray) (dist len : Nat) : ByteArray :=
  (List.range len).foldl (fun o _ => o.push (o.data.getD (o.size - dist) 0)) out

/-- Decode the symbols of a block up to its end. -/
def symbols (lit dist : Code) : Nat → BitReader → ByteArray → Option (BitReader × ByteArray)
  | 0, _, _ => none
  | fuel + 1, r, out => do
    let (sym, r) ← lit.decode r
    if sym < 256 then symbols lit dist fuel r (out.push sym.toUInt8)
    else if sym = 256 then pure (r, out)
    else
      let i := sym - 257
      if 29 ≤ i then none else
      let (e, r) ← BitReader.bits (lengthExtra.getD i 0) r
      let (d, r) ← dist.decode r
      if 30 ≤ d then none else
      let (e2, r) ← BitReader.bits (distanceExtra.getD d 0) r
      let back := distanceBase.getD d 0 + e2
      if out.size < back then none else
      symbols lit dist fuel r (copyBack out back (lengthBase.getD i 0 + e))

def fixedLiterals : Code :=
  .ofLengths (List.replicate 144 8 ++ List.replicate 112 9 ++ List.replicate 24 7 ++
    List.replicate 8 8)

def fixedDistances : Code := .ofLengths (List.replicate 30 5)

def lengthOrder : List Nat := [16, 17, 18, 0, 8, 7, 9, 6, 10, 5, 11, 4, 12, 3, 13, 2, 14, 1, 15]

/-- Read `n` code lengths coded with `c`: 0 to 15 are lengths, 16 repeats the last length 3
to 6 times, 17 and 18 give 3 to 10 and 11 to 138 zeros. -/
def readLengths (c : Code) (n : Nat) : Nat → BitReader → List Nat → Option (List Nat × BitReader)
  | 0, _, _ => none
  | fuel + 1, r, acc =>
    if n ≤ acc.length then
      if acc.length = n then some (acc, r) else none
    else do
      let (sym, r) ← c.decode r
      if sym < 16 then readLengths c n fuel r (acc ++ [sym])
      else if sym = 16 then
        let last ← acc.getLast?
        let (k, r) ← BitReader.bits 2 r
        readLengths c n fuel r (acc ++ List.replicate (3 + k) last)
      else if sym = 17 then
        let (k, r) ← BitReader.bits 3 r
        readLengths c n fuel r (acc ++ List.replicate (3 + k) 0)
      else
        let (k, r) ← BitReader.bits 7 r
        readLengths c n fuel r (acc ++ List.replicate (11 + k) 0)

/-- Read the codes a dynamic block sends. -/
def dynamicCodes (r : BitReader) : Option (Code × Code × BitReader) := do
  let (hlit, r) ← BitReader.bits 5 r
  let (hdist, r) ← BitReader.bits 5 r
  let (hclen, r) ← BitReader.bits 4 r
  let (given, r) ← (List.range (hclen + 4)).foldlM (fun (acc, r) _ => do
      let (v, r) ← BitReader.bits 3 r
      pure (acc ++ [v], r)) (([] : List Nat), r)
  let lengthLengths := (List.range 19).map fun s =>
    match (lengthOrder.zip given).find? (·.1 = s) with
    | some (_, l) => l
    | none => 0
  let lengthCode := Code.ofLengths lengthLengths
  let total := hlit + 257 + hdist + 1
  let (lengths, r) ← readLengths lengthCode total (total + 1) r []
  pure (Code.ofLengths (lengths.take (hlit + 257)), Code.ofLengths (lengths.drop (hlit + 257)), r)

/-- Decode the blocks from `r` on, appending to `out`. -/
def blocks : Nat → BitReader → ByteArray → Option ByteArray
  | 0, _, _ => none
  | fuel + 1, r, out => do
    let (last, r) ← r.bit
    let (kind, r) ← BitReader.bits 2 r
    let (r, out) ← match kind with
      | 0 => do
        let r := r.align
        let (len, r) ← BitReader.bits 16 r
        let (nlen, r) ← BitReader.bits 16 r
        if len + nlen ≠ 65535 then none else
        let (data, r) ← r.bytesAt len
        pure (r, out ++ data)
      | 1 => symbols fixedLiterals fixedDistances (r.left + 1) r out
      | 2 => do
        let (lit, dist, r) ← dynamicCodes r
        symbols lit dist (r.left + 1) r out
      | _ => none
    if last = 1 then pure out else blocks fuel r out

def inflate (data : ByteArray) : Option ByteArray :=
  let r : BitReader := { bytes := data }
  blocks (r.left + 1) r .empty

end RoadWeather.Archive
