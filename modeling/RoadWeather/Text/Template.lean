import RoadWeather.Fault
import RoadWeather.Text.Digit
import RoadWeather.Value.Text

/-! # Filling templates with integers -/

namespace RoadWeather.Text.Template

/-- A parsed spec. -/
structure Spec where
  fill : Char := ' '
  align : Char
  sign : Option Char := none
  noNegZero : Bool := false
  alternate : Bool := false
  width : Option Nat := none
  grouping : Option Char := none
  precision : Option Nat := none
  type : Option Char := none
  deriving Repr

def bad (msg : String) : Except Fault α := .error ⟨.badValue, msg⟩

def isAlignChar (c : Char) : Bool := c = '<' || c = '>' || c = '=' || c = '^'

def countLimit : Nat := Nat.pow 2 63 - 1

def readCount : List Char → Nat → Bool → Except Fault (Option Nat × List Char)
  | [], acc, seen => pure (if seen then some acc else none, [])
  | c :: rest, acc, seen =>
    match decimalValue? c with
    | some d =>
      if acc > (countLimit - d) / 10 then bad "Too many decimal digits in format string"
      else readCount rest (10 * acc + d) true
    | none => pure (if seen then some acc else none, c :: rest)

def codeText (c : Char) : String :=
  if 32 < c.toNat && c.toNat < 128 then c.toString else "\\x" ++ String.ofList (Nat.toDigits 16 c.toNat)

/-- Read a spec; `dflt` is the default alignment and `kind` names the value's kind in
messages. -/
def parseSpec (spec : List Char) (dflt : Char) (kind : String) : Except Fault Spec := do
  let (fill, align, fillSet, alignSet, rest) : Char × Char × Bool × Bool × List Char :=
    match spec with
    | f :: a :: r =>
      if isAlignChar a then (f, a, true, true, r)
      else if isAlignChar f then (' ', f, false, true, a :: r)
      else (' ', dflt, false, false, f :: a :: r)
    | [a] => if isAlignChar a then (' ', a, false, true, []) else (' ', dflt, false, false, [a])
    | [] => (' ', dflt, false, false, [])
  let (sign, rest) := match rest with
    | c :: r => if c = '+' || c = '-' || c = ' ' then (some c, r) else (none, c :: r)
    | [] => (none, [])
  let (noNegZero, rest) := match rest with
    | 'z' :: r => (true, r)
    | r => (false, r)
  let (alternate, rest) := match rest with
    | '#' :: r => (true, r)
    | r => (false, r)
  let (fill, align, rest) := match rest with
    | '0' :: r =>
      if !fillSet then ('0', (if !alignSet && dflt = '>' then '=' else align), r)
      else (fill, align, '0' :: r)
    | r => (fill, align, r)
  let (width, rest) ← readCount rest 0 false
  let (grouping, rest) ← match rest with
    | ',' :: '_' :: _ => bad "Cannot specify both ',' and '_'."
    | '_' :: ',' :: _ => bad "Cannot specify both ',' and '_'."
    | ',' :: r => pure (some ',', r)
    | '_' :: r => pure (some '_', r)
    | r => pure (none, r)
  let (precision, rest) ← match rest with
    | '.' :: r =>
      match ← readCount r 0 false with
      | (some p, r') => pure (some p, r')
      | (none, _) => bad "Format specifier missing precision"
    | r => pure (none, r)
  let type ← match rest with
    | [] => pure none
    | [t] => pure (some t)
    | _ => bad ("Invalid format specifier '" ++ String.ofList spec ++ "' for object of type '" ++
        kind ++ "'")
  match grouping with
  | some g =>
    let t := type.getD (if dflt = '>' then 'd' else 's')
    let ok := t ∈ ['d', 'e', 'f', 'g', 'E', 'G', '%', 'F'] ||
      (g = '_' && t ∈ ['b', 'o', 'x', 'X'])
    if !ok then bad ("Cannot specify '" ++ g.toString ++ "' with '" ++ codeText t ++ "'.")
  | none => pure ()
  return { fill, align, sign, noNegZero, alternate, width, grouping, precision, type }

/-! ## Laying out a number -/

/-- Digits with group separators every `size` digits from the right, zero-extended so that the
result has at least `minWidth` characters. `ds` is the reversed digit list. -/
def groupDigits (sep : Option Char) (size : Nat) : Nat → List Char → Int → List Char → List Char
  | 0, _, _, acc => acc
  | fuel + 1, ds, minWidth, acc =>
    match sep with
    | none =>
      let need := (minWidth - ds.length).toNat
      (List.replicate need '0') ++ ds.reverse ++ acc
    | some s =>
      let l := min size (max (max ds.length minWidth.toNat) 1)
      let chars := ds.take l
      let zeros := l - chars.length
      let group := List.replicate zeros '0' ++ chars.reverse
      let ds' := ds.drop l
      let mw := minWidth - l
      if ds'.isEmpty && mw ≤ 0 then group ++ acc
      else groupDigits sep size fuel ds' (mw - 1) (s :: group ++ acc)

def pad (sp : Spec) (lead body : String) : String :=
  let len := lead.length + body.length
  let w := sp.width.getD 0
  if len ≥ w then lead ++ body
  else
    let n := w - len
    let fills := fun k => String.ofList (List.replicate k sp.fill)
    match sp.align with
    | '<' => lead ++ body ++ fills n
    | '^' => fills (n / 2) ++ lead ++ body ++ fills (n - n / 2)
    | '=' => lead ++ fills n ++ body
    | _ => fills n ++ lead ++ body

def layoutNumber (sp : Spec) (signText prefix_ : String) (intDigits : List Char) (tail : String)
    (groupSize : Nat) : String :=
  let lead := signText ++ prefix_
  let minWidth : Int :=
    if sp.fill = '0' && sp.align = '=' then (sp.width.getD 0 : Int) - lead.length - tail.length
    else 0
  let digits := groupDigits sp.grouping groupSize (intDigits.length + minWidth.toNat + 2)
    intDigits minWidth []
  pad sp lead (String.ofList digits ++ tail)

def signFor (sp : Spec) (negative : Bool) : String :=
  if negative then "-" else match sp.sign with
    | some '+' => "+"
    | some ' ' => " "
    | _ => ""

def baseDigits (b : Nat) (upper : Bool) (n : Nat) : List Char :=
  let ds := Nat.toDigits b n
  if upper then ds.map Char.toUpper else ds

def roundSignificant (n : Nat) (k : Nat) : List Char × Nat :=
  let ds := Nat.toDigits 10 n
  let len := ds.length
  if len ≤ k then (ds ++ List.replicate (k - len) '0', len - 1)
  else
    let cut := Nat.pow 10 (len - k)
    let q := n / cut
    let r := n % cut
    let q := if 2 * r > cut || (2 * r = cut && q % 2 = 1) then q + 1 else q
    let qs := Nat.toDigits 10 q
    if qs.length > k then (qs.take k, len) else (qs, len - 1)

def exponentText (mark : Char) (e : Int) : String :=
  let d := toString e.natAbs
  mark.toString ++ (if e < 0 then "-" else "+") ++ (if d.length < 2 then "0" ++ d else d)

/-- Decimal notation of an integer: integer digits and the rest. -/
def decimalParts (sp : Spec) (t : Char) (n : Nat) : List Char × String :=
  let prec := sp.precision.getD 6
  let point := fun (frac : String) => if frac.isEmpty then (if sp.alternate then "." else "") else "." ++ frac
  match t with
  | 'f' | 'F' => (Nat.toDigits 10 n, point (String.ofList (List.replicate prec '0')))
  | '%' => (Nat.toDigits 10 (100 * n), point (String.ofList (List.replicate prec '0')) ++ "%")
  | 'e' | 'E' =>
    if n = 0 then (['0'], point (String.ofList (List.replicate prec '0')) ++ exponentText t 0)
    else
      let (ds, x) := roundSignificant n (prec + 1)
      (ds.take 1, point (String.ofList (ds.drop 1)) ++ exponentText t x)
  | _ =>
    -- general notation
    let p := if prec = 0 then 1 else prec
    let mark := if t = 'G' then 'E' else 'e'
    let (ds, x) := if n = 0 then (List.replicate p '0', 0) else roundSignificant n p
    let trim := fun (cs : List Char) => if sp.alternate then cs else (cs.reverse.dropWhile (· = '0')).reverse
    if x < p then
      let intPart := ds.take (x + 1)
      let frac := trim (ds.drop (x + 1))
      (intPart, point (String.ofList frac))
    else
      (ds.take 1, point (String.ofList (trim (ds.drop 1))) ++ exponentText mark x)

/-- Write an integer by a spec. -/
def formatInt (n : Int) (sp : Spec) : Except Fault String := do
  let t := sp.type.getD 'd'
  let neg := n < 0
  let mag := n.natAbs
  match t with
  | 'd' | 'n' | 'b' | 'o' | 'x' | 'X' | 'c' =>
    if sp.precision.isSome then bad "Precision not allowed in integer format specifier"
    if sp.noNegZero then bad "Negative zero coercion (z) not allowed in integer format specifier"
    if t = 'c' then
      if sp.sign.isSome then bad "Sign not allowed with integer format specifier 'c'"
      if sp.alternate then bad "Alternate form (#) not allowed with integer format specifier 'c'"
      if n < 0 ∨ n > 0x10ffff then .error ⟨.overflow, "%c arg not in range(0x110000)"⟩
      return pad sp "" (Char.ofNat mag).toString
    let (base, upper, pre) : Nat × Bool × String := match t with
      | 'b' => (2, false, "0b")
      | 'o' => (8, false, "0o")
      | 'x' => (16, false, "0x")
      | 'X' => (16, true, "0X")
      | _ => (10, false, "")
    let prefix_ := if sp.alternate then pre else ""
    let size := if base = 10 then 3 else 4
    return layoutNumber sp (signFor sp neg) prefix_ (baseDigits base upper mag).reverse "" size
  | 'e' | 'E' | 'f' | 'F' | 'g' | 'G' | '%' =>
    let (ds, tail) := decimalParts sp t mag
    return layoutNumber sp (signFor sp neg) "" ds.reverse tail 3
  | _ => bad ("Unknown format code '" ++ codeText t ++ "' for object of type 'int'")

def formatText (s : String) (sp : Spec) : Except Fault String := do
  match sp.type with
  | none | some 's' => pure ()
  | some t => bad ("Unknown format code '" ++ codeText t ++ "' for object of type 'str'")
  if sp.sign = some ' ' then bad "Space not allowed in string format specifier"
  if sp.sign.isSome then bad "Sign not allowed in string format specifier"
  if sp.noNegZero then bad "Negative zero coercion (z) not allowed in string format specifier"
  if sp.alternate then bad "Alternate form (#) not allowed in string format specifier"
  if sp.align = '=' then bad "'=' alignment not allowed in string format specifier"
  let s := match sp.precision with
    | some p => String.ofList (s.toList.take p)
    | none => s
  return pad sp "" s

/-! ## Reading templates -/

/-- A field's value: an integer, or text after a conversion. -/
inductive Filled where
  | int (n : Int)
  | text (s : String)

/-- A field as read from a template: its name, its conversion, its spec and whether the spec
holds fields of its own. -/
structure Field where
  name : List Char
  conversion : Option Char
  spec : List Char
  nested : Bool

/-- The field name: everything up to `:`, `!` or the closing brace, where a bracket hides
everything up to the next closing bracket. Gives the name, the character that ended it and
the rest. -/
def readName : List Char → List Char → Except Fault (List Char × Char × List Char)
  | [], _ => bad "expected '\x7d' before end of string"
  | '\x7b' :: _, _ => bad "unexpected '\x7b' in field name"
  | '[' :: r, acc =>
    -- the bracketed part is taken whole, up to (not including) the closing bracket
    let inside := r.takeWhile (· ≠ ']')
    match h : r.dropWhile (· ≠ ']') with
    | [] => bad "expected '\x7d' before end of string"
    | c :: r' =>
      have : r'.length < r.length := by
        have := (List.dropWhile_suffix (fun x => decide (x ≠ ']')) (l := r)).length_le
        rw [h] at this
        simp at this
        omega
      readName (c :: r') (inside.reverse ++ '[' :: acc)
  | c :: r, acc =>
    if c = ':' || c = '!' || c = '\x7d' then pure (acc.reverse, c, r) else readName r (c :: acc)
termination_by cs => cs.length

def readSpec : List Char → Nat → Bool → List Char → Except Fault (List Char × Bool × List Char)
  | [], _, _, _ => bad "unmatched '\x7b' in format spec"
  | '\x7b' :: r, k, _, acc => readSpec r (k + 1) true ('\x7b' :: acc)
  | '\x7d' :: r, k, nested, acc =>
    if k ≤ 1 then pure (acc.reverse, nested, r) else readSpec r (k - 1) nested ('\x7d' :: acc)
  | c :: r, k, nested, acc => readSpec r k nested (c :: acc)

/-- Read a field that follows an opening brace: the field and the rest of the template. -/
def readField (cs : List Char) : Except Fault (Field × List Char) := do
  let (name, stop, rest) ← readName cs []
  match stop with
  | ':' =>
    let (spec, nested, rest) ← readSpec rest 1 false []
    pure (⟨name, none, spec, nested⟩, rest)
  | '!' =>
    match rest with
    | [] => bad "end of string while looking for conversion specifier"
    | [c] =>
      let (spec, nested, rest) ← readSpec [] 1 false []
      pure (⟨name, some c, spec, nested⟩, rest)
    | c :: '\x7d' :: rest => pure (⟨name, some c, [], false⟩, rest)
    | c :: ':' :: rest =>
      let (spec, nested, rest) ← readSpec rest 1 false []
      pure (⟨name, some c, spec, nested⟩, rest)
    | _ :: _ :: _ => bad "expected ':' after conversion specifier"
  | _ => pure (⟨name, none, [], false⟩, rest)

def fieldNumber : List Char → Nat → Except Fault (Option Nat)
  | [], acc => pure (some acc)
  | c :: rest, acc =>
    match decimalValue? c with
    | some d =>
      if acc > (countLimit - d) / 10 then bad "Too many decimal digits in format string"
      else fieldNumber rest (10 * acc + d)
    | none => pure none

def endsPart (c : Char) : Bool := c = '.' || c = '['

/-- Follow the attribute and index parts of a field name from an integer. -/
def follow : List Char → Int → Except Fault Int
  | [], v => pure v
  | '.' :: r, v => do
    let attr := r.takeWhile (! endsPart ·)
    if attr.isEmpty then bad "Empty attribute in format string"
    let v' ← match String.ofList attr with
      | "real" | "numerator" => pure v
      | "imag" => pure 0
      | "denominator" => pure 1
      | a => .error ⟨.noAttribute, "'int' object has no attribute '" ++ a ++ "'"⟩
    have : (r.dropWhile (! endsPart ·)).length < r.length + 1 := by
      have := (List.dropWhile_suffix (! endsPart ·) (l := r)).length_le
      omega
    follow (r.dropWhile (! endsPart ·)) v'
  | '[' :: r, _ => do
    if !r.contains ']' then bad "Missing ']' in format string"
    let item := r.takeWhile (· ≠ ']')
    let _ ← fieldNumber item 0
    if item.isEmpty then bad "Empty attribute in format string"
    .error ⟨.wrongKind, "'int' object is not subscriptable"⟩
  | _ :: _, _ => bad "Only '.' or '[' may follow ']' in format field specifier"
termination_by cs => cs.length

def resolve (args : List (String × Int)) (name : List Char) : Except Fault Int := do
  let first := name.takeWhile (! endsPart ·)
  let n ← if first.isEmpty then
      .error ⟨.index, "Replacement index 0 out of range for positional args tuple"⟩
    else match ← fieldNumber first 0 with
      | some i => .error ⟨.index, "Replacement index " ++ toString i ++
          " out of range for positional args tuple"⟩
      | none =>
        match args.lookup (String.ofList first) with
        | some v => pure v
        | none => .error ⟨.missingKey, quoteText (String.ofList first)⟩
  follow (name.dropWhile (! endsPart ·)) n

def formatFilled (v : Filled) (spec : String) : Except Fault String :=
  match v with
  | .int n => if spec.isEmpty then pure (toString n) else do formatInt n (← parseSpec spec.toList '>' "int")
  | .text s => if spec.isEmpty then pure s else do formatText s (← parseSpec spec.toList '<' "str")

/-- Fill a template. `depth` counts how many levels of fields inside specs are still allowed;
the fuel bounds the steps over the template. -/
def render (args : List (String × Int)) : Nat → Nat → List Char → List Char →
    Except Fault String
  | 0, _, _, acc => pure (String.ofList acc.reverse)
  | _ + 1, _, [], acc => pure (String.ofList acc.reverse)
  | fuel + 1, depth, '\x7b' :: '\x7b' :: r, acc => render args fuel depth r ('\x7b' :: acc)
  | fuel + 1, depth, '\x7d' :: '\x7d' :: r, acc => render args fuel depth r ('\x7d' :: acc)
  | _ + 1, _, '\x7d' :: _, _ => bad "Single '\x7d' encountered in format string"
  | _ + 1, _, ['\x7b'], _ => bad "Single '\x7b' encountered in format string"
  | fuel + 1, depth, '\x7b' :: r, acc => do
    let (f, after) ← readField r
    let n ← resolve args f.name
    let v ← match f.conversion with
      | none => pure (Filled.int n)
      | some 'r' | some 's' | some 'a' => pure (Filled.text (toString n))
      | some c => bad ("Unknown conversion specifier " ++ codeText c)
    let spec ← if f.nested then
        if depth ≤ 1 then bad "Max string recursion exceeded"
        else render args fuel (depth - 1) f.spec []
      else pure (String.ofList f.spec)
    let s ← formatFilled v spec
    render args fuel depth after (s.toList.reverse ++ acc)
  | fuel + 1, depth, c :: r, acc => render args fuel depth r (c :: acc)

def fill (template : String) (args : List (String × Int)) : Except Fault String :=
  render args (template.length + 1) 2 template.toList []

end RoadWeather.Text.Template
