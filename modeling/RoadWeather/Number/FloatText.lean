import RoadWeather.Number.Shortest

/-! # Writing and rounding doubles -/

namespace RoadWeather.Number

/-- How a double is written. With digits `d₁…dₙ` and point position `p` (the value is
`0.d₁…dₙ · 10^p`), positional notation is used when `low < p ≤ high`. -/
structure FloatStyle where
  low : Int
  high : Int
  expDigits : Nat
  nanText : String
  infText : String

def FloatStyle.standard : FloatStyle := ⟨-4, 16, 2, "nan", "inf"⟩

def zeros (n : Nat) : String := String.ofList (List.replicate n '0')

def digitsOf (d : Nat) : String := toString d

/-- Write the positive decimal `d · 10^e` in a style. -/
def writeDecimal (st : FloatStyle) (d : Nat) (e : Int) : String :=
  let ds := digitsOf d
  let n := ds.length
  let p : Int := e + n
  if st.low < p ∧ p ≤ st.high then
    if p ≤ 0 then "0." ++ zeros (-p).toNat ++ ds
    else if p < n then
      String.ofList (ds.toList.take p.toNat) ++ "." ++ String.ofList (ds.toList.drop p.toNat)
    else ds ++ zeros (p.toNat - n) ++ ".0"
  else
    let first := String.ofList (ds.toList.take 1)
    let rest := String.ofList (ds.toList.drop 1)
    let x := p - 1
    let expText := toString x.natAbs
    let expText := zeros (st.expDigits - expText.length) ++ expText
    first ++ (if rest.isEmpty then "" else "." ++ rest) ++ "e" ++
      (if x < 0 then "-" else "+") ++ expText

def writeFloatIn (st : FloatStyle) (x : Float) : String :=
  match classify x with
  | .nan => st.nanText
  | .infinite neg => (if neg then "-" else "") ++ st.infText
  | .finite ⟨neg, m, q⟩ =>
    let sign := if neg then "-" else ""
    if m = 0 then sign ++ "0.0"
    else
      let (d, e) := shortest m q
      sign ++ writeDecimal st d e

def writeFloat (x : Float) : String := writeFloatIn .standard x

def halfEven (num den : Nat) : Nat :=
  let q := num / den
  let r := num % den
  if 2 * r < den then q
  else if 2 * r > den then q + 1
  else if q % 2 = 0 then q else q + 1

def roundPlaces (x : Float) (places : Nat) : Float :=
  match classify x with
  | .finite ⟨neg, m, q⟩ =>
    let p := scaledPair m q places 1 0 0
    let r := halfEven p.1 p.2
    let y := Float.ofScientific r true places
    if neg then -y else y
  | _ => x

end RoadWeather.Number
