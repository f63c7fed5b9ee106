import RoadWeather.Workbook
import RoadWeather.Archive.Zip
import RoadWeather.Markup.Xml
import RoadWeather.Text.Integer
import RoadWeather.Text.Pieces

/-! # Reading workbook files

A workbook file is a zip archive of XML parts: the sheets, their cells and the shared strings. -/

namespace RoadWeather.Workbook

open RoadWeather.Time
open RoadWeather.Markup

/-! ## Number formats -/

/-- The built-in number formats by id. -/
def builtinFormat : Nat → Option String
  | 0 => some "General"
  | 1 => some "0"
  | 2 => some "0.00"
  | 3 => some "#,##0"
  | 4 => some "#,##0.00"
  | 5 => some "\"$\"#,##0_);(\"$\"#,##0)"
  | 6 => some "\"$\"#,##0_);[Red](\"$\"#,##0)"
  | 7 => some "\"$\"#,##0.00_);(\"$\"#,##0.00)"
  | 8 => some "\"$\"#,##0.00_);[Red](\"$\"#,##0.00)"
  | 9 => some "0%"
  | 10 => some "0.00%"
  | 11 => some "0.00E+00"
  | 12 => some "# ?/?"
  | 13 => some "# ??/??"
  | 14 => some "mm-dd-yy"
  | 15 => some "d-mmm-yy"
  | 16 => some "d-mmm"
  | 17 => some "mmm-yy"
  | 18 => some "h:mm AM/PM"
  | 19 => some "h:mm:ss AM/PM"
  | 20 => some "h:mm"
  | 21 => some "h:mm:ss"
  | 22 => some "m/d/yy h:mm"
  | 37 => some "#,##0_);(#,##0)"
  | 38 => some "#,##0_);[Red](#,##0)"
  | 39 => some "#,##0.00_);(#,##0.00)"
  | 40 => some "#,##0.00_);[Red](#,##0.00)"
  | 41 => some "_(* #,##0_);_(* \\(#,##0\\);_(* \"-\"_);_(@_)"
  | 42 => some "_(\"$\"* #,##0_);_(\"$\"* \\(#,##0\\);_(\"$\"* \"-\"_);_(@_)"
  | 43 => some "_(* #,##0.00_);_(* \\(#,##0.00\\);_(* \"-\"??_);_(@_)"
  | 44 => some "_(\"$\"* #,##0.00_)_(\"$\"* \\(#,##0.00\\)_(\"$\"* \"-\"??_)_(@_)"
  | 45 => some "mm:ss"
  | 46 => some "[h]:mm:ss"
  | 47 => some "mmss.0"
  | 48 => some "##0.0E+0"
  | 49 => some "@"
  | _ => none

def firstSection (fmt : String) : List Char := fmt.toList.takeWhile (· ≠ ';')

def elapsedField (cs : List Char) : Bool :=
  ["h]", "hh]", "m]", "mm]", "s]", "ss]"].any fun f => f.toList.isPrefixOf cs

/-- A format without its quoted texts (a quote closed before the line ends) and without its
bracketed parts other than elapsed-time fields. -/
def stripLiterals : Nat → List Char → List Char
  | 0, cs => cs
  | _, [] => []
  | fuel + 1, '"' :: rest =>
    let inside := rest.takeWhile fun c => c ≠ '"' && c ≠ '\n'
    match rest.drop inside.length with
    | '"' :: after => stripLiterals fuel after
    | _ => '"' :: stripLiterals fuel rest
  | fuel + 1, '[' :: rest =>
    if elapsedField rest then '[' :: stripLiterals fuel rest
    else
      let inside := rest.takeWhile (· ≠ ']')
      match rest.drop inside.length with
      | ']' :: after => stripLiterals fuel after
      | _ => '[' :: stripLiterals fuel rest
  | fuel + 1, c :: rest => c :: stripLiterals fuel rest

def dateField : Option Char → List Char → Bool
  | _, [] => false
  | prev, c :: rest =>
    ("dmhysDMHYS".toList.contains c && prev != some '_' && prev != some '\\') ||
      dateField (some c) rest

def isDateFormat (fmt : String) : Bool :=
  let cs := firstSection fmt
  dateField none (stripLiterals cs.length cs)

def isSpanFormat (fmt : String) : Bool :=
  let cs := (firstSection fmt).map Char.toLower
  ["[h]", "[hh]", "[m]", "[mm]", "[s]", "[ss]"].any fun f => f.toList.isPrefixOf cs

/-- How the numbers of a cell style read. -/
inductive NumberKind where
  | plain
  | date
  | span
  deriving DecidableEq, Repr, Inhabited

def NumberKind.ofFormat : Option String → NumberKind
  | some fmt => if isDateFormat fmt then (if isSpanFormat fmt then .span else .date) else .plain
  | none => .plain

/-! ## Parts of the archive -/

def leadingText (n : Node) : String :=
  String.join ((n.children.takeWhile fun c => c matches .text _).map fun c => match c with
    | .text s => s
    | _ => "")

def rootOf (nodes : List Node) : Option Node := nodes.find? fun n => n matches .element _ _ _

def missingPart (name : String) : Fault :=
  ⟨.missingKey, "\"There is no item named '" ++ name ++ "' in the archive\""⟩

/-- An archive whose directory has been read. -/
structure Package where
  bytes : ByteArray
  members : List Archive.Member

def Package.part? (a : Package) (name : String) : Option (Except Fault ByteArray) :=
  (a.members.reverse.find? (·.name == name)).map fun m =>
    match m.contents a.bytes with
    | some b => .ok b
    | none => .error ⟨.badArchive, "Bad compressed data in '" ++ name ++ "'"⟩

def Package.text? (a : Package) (name : String) : Option (Except Fault String) :=
  (a.part? name).map fun r => do
    let b ← r
    let b := if b.size ≥ 3 && b.get! 0 = 0xEF && b.get! 1 = 0xBB && b.get! 2 = 0xBF then
      b.extract 3 b.size else b
    match String.fromUTF8? b with
    | some s => pure s
    | none => throw ⟨.badValue, "Part '" ++ name ++ "' is not UTF-8 text"⟩

def Package.root (a : Package) (name : String) : Except Fault Node := do
  match a.text? name with
  | none => throw (missingPart name)
  | some r =>
    match rootOf (parse (← r)) with
    | some n => pure n
    | none => throw ⟨.badValue, "Part '" ++ name ++ "' has no element"⟩

def Package.root? (a : Package) (name : String) : Except Fault (Option Node) :=
  match a.text? name with
  | none => .ok none
  | some r => do pure (rootOf (parse (← r)))

def workbookTypes : List String :=
  ["application/vnd.ms-excel.template.macroEnabled.main+xml",
    "application/vnd.openxmlformats-officedocument.spreadsheetml.template.main+xml",
    "application/vnd.ms-excel.sheet.macroEnabled.main+xml",
    "application/vnd.openxmlformats-officedocument.spreadsheetml.sheet.main+xml"]

def sharedStringsType : String :=
  "application/vnd.openxmlformats-officedocument.spreadsheetml.sharedStrings+xml"

def partOfType (types : Node) (ty : String) : Option String :=
  ((types.childrenNamed "Override").find? (·.attr? "ContentType" == some ty)).bind (·.attr? "PartName")

def workbookPart (types : Node) : Except Fault String :=
  match workbookTypes.findSome? (partOfType types) with
  | some p => .ok (String.ofList (p.toList.drop 1))
  | none =>
    let defaults := (types.childrenNamed "Default").filterMap (·.attr? "ContentType")
    if defaults.any workbookTypes.contains then .ok "xl/workbook.xml"
    else .error ⟨.system, "File contains no valid workbook part"⟩

def normalPath (path : String) : String :=
  let parts := (Text.cut path "/").foldl (fun (acc : List String) p =>
    if p = "" || p = "." then acc
    else if p = ".." then (if acc.isEmpty then [".."] else acc.drop 1)
    else p :: acc) []
  "/".intercalate parts.reverse

def folderOf (path : String) : String := "/".intercalate (Text.cut path "/").dropLast

def relationsPath (part : String) : String :=
  let parts := Text.cut part "/"
  "/".intercalate (parts.dropLast ++ ["_rels", parts.getLastD "" ++ ".rels"])

def relations (rels : Node) (relsPath : String) : List (String × String) :=
  let parent := folderOf (folderOf relsPath)
  (rels.childrenNamed "Relationship").filterMap fun r =>
    if r.attr? "TargetMode" == some "External" then none
    else
      match r.attr? "Id", r.attr? "Target" with
      | some i, some t =>
        let t := if t.startsWith "/" then String.ofList (t.toList.drop 1)
          else normalPath (if parent.isEmpty then t else parent ++ "/" ++ t)
        some (i, t)
      | _, _ => none

/-! ## Styles and shared strings -/

def numberKinds (styles : Node) : Array NumberKind :=
  let own := ((styles.child? "numFmts").map (·.childrenNamed "numFmt")).getD [] |>.filterMap
    fun n => match (n.attr? "numFmtId").bind Text.readInteger, n.attr? "formatCode" with
      | some i, some code => some (i, code)
      | _, _ => none
  let xfs := ((styles.child? "cellXfs").map (·.childrenNamed "xf")).getD []
  (xfs.map fun xf =>
    let id := ((xf.attr? "numFmtId").bind Text.readInteger).getD 0
    let fmt := match own.reverse.find? (·.1 == id) with
      | some (_, code) => some code
      | none => if id < 0 then none else builtinFormat id.toNat
    NumberKind.ofFormat fmt).toArray

def itemText (n : Node) : String :=
  let own := ((n.childrenNamed "t").getLast?.map leadingText).getD ""
  own ++ String.join ((n.childrenNamed "r").map fun r =>
    ((r.childrenNamed "t").getLast?.map leadingText).getD "")

def sharedStrings (sst : Node) : Array String :=
  ((sst.childrenNamed "si").map fun si => Text.replaceAll (itemText si) "x005F_" "").toArray

/-! ## Cells -/

/-- What reading the cells of a sheet needs: the shared strings, how each style's numbers
read, and whether days count from 1904. -/
structure CellContext where
  strings : Array String
  kinds : Array NumberKind
  from1904 : Bool

def roundMillis (u : Int) : Int :=
  let q := u / 1000
  let r := u % 1000
  if r > 500 then (q + 1) * 1000
  else if r < 500 then q * 1000
  else if q % 2 = 0 then q * 1000 else (q + 1) * 1000

def towardZero (x : Float) : Float := if x < 0 then x.ceil else x.floor

/-- The microseconds of a duration of `x` days, as durations are built from a day count: the
whole days exactly, the fraction of a day times the microseconds of a day as a double, and
what that leaves below a microsecond rounded to the nearest, a tie to an even total. Then
what lies below a second is rounded to the millisecond. `none` when there is no such
duration. -/
def spanMicros (x : Float) : Option Int := do
  let whole := towardZero x
  let days ← Number.wholeValue? whole
  let p := (x - whole) * 86400000000.0
  let pw := towardZero p
  let us ← Number.wholeValue? pw
  let left := p - pw
  let base := days * 86400000000 + us
  let extra : Int :=
    if left = 0.5 || left = -0.5 then
      (if base % 2 = 0 then 0 else if left > 0 then 1 else -1)
    else if left ≥ 0.5 then 1
    else if left ≤ -0.5 then -1
    else 0
  let m := base + extra
  if m / 86400000000 < -999999999 || m / 86400000000 > 999999999 then none
  else
    let below := m % 1000000
    pure (if below = 0 then m else m - below + roundMillis below)

def firstMicro : Int := ({ year := 1, month := 1, day := 1 } : Instant).toMicros
def lastMicro : Int := ({ year := 10000, month := 1, day := 1 } : Instant).toMicros - 1

def dayValue (from1904 : Bool) (kind : NumberKind) (x : Float) : Value :=
  let broken := Value.text "#VALUE!"
  match Number.classify x with
  | .finite _ =>
    if kind = .span then
      match spanMicros x with
      | some m => .span ⟨m⟩
      | none => broken
    else
      let us := Instant.serialMicros from1904 x
      if us < firstMicro || us > lastMicro then broken else .time (Instant.ofMicros us)
  | _ => broken

def castNumber (t : String) : Except Fault Value :=
  if t.toList.any fun c => c = '.' || c = 'e' || c = 'E' then
    match Number.readDecimal t.trimAscii.toString with
    | some (neg, d, e) => .ok (.float (Number.ofDecimal neg d e))
    | none => .error ⟨.badValue, "could not convert string to float: " ++ quoteText t⟩
  else
    match Text.readInteger t with
    | some n => .ok (.int n)
    | none => .error ⟨.badValue, "invalid literal for int() with base 10: " ++ quoteText t⟩

def castInteger (t : String) : Except Fault Int :=
  match Text.readInteger t with
  | some n => .ok n
  | none => .error ⟨.badValue, "invalid literal for int() with base 10: " ++ quoteText t⟩

/-- The value a cell holds. -/
def cellValue (ctx : CellContext) (c : Node) : Except Fault Value := do
  let kind := (c.attr? "t").getD "n"
  let style := ((c.attr? "s").bind Text.readInteger).getD 0
  let raw : Option String :=
    if kind = "inlineStr" then none
    else match (c.child? "v").map leadingText with
      | some t => if t.isEmpty then none else some t
      | none => none
  match c.child? "f", raw with
  | some f, _ => pure (.text ("=" ++ leadingText f))
  | none, some t =>
    if kind = "n" then
      let v ← castNumber t
      let numberKind := if style < 0 then .plain else ctx.kinds.getD style.toNat .plain
      match numberKind, v with
      | .plain, v => pure v
      | k, .int n => pure (dayValue ctx.from1904 k (Float.ofInt n))
      | k, .float x => pure (dayValue ctx.from1904 k x)
      | _, v => pure v
    else if kind = "s" then
      let i ← castInteger t
      let i := if i < 0 then i + ctx.strings.size else i
      match (if i < 0 then none else ctx.strings[i.toNat]?) with
      | some s => pure (.text s)
      | none => throw ⟨.index, "list index out of range"⟩
    else if kind = "b" then
      pure (.bool ((← castInteger t) != 0))
    else if kind = "d" then
      match Instant.ofIso? t with
      | some i => pure (.time i)
      | none => throw ⟨.badValue, "Invalid datetime value " ++ t⟩
    else pure (.text t)
  | none, none =>
    if kind = "inlineStr" then
      pure (match c.child? "is" with
        | some i => .text (itemText i)
        | none => .nothing)
    else pure .nothing

def positionColumn (r : String) : Except Fault Nat :=
  let cs := r.toList
  let cs := if cs.head? == some '$' then cs.drop 1 else cs
  let letters := cs.takeWhile Char.isAlpha
  let rest := cs.drop letters.length
  let rest := if rest.head? == some '$' then rest.drop 1 else rest
  match Position.ofName? (String.ofList (letters ++ rest)) with
  | some p => if p.row = 0 then .error ⟨.badValue, "There is no row 0 (" ++ r ++ ")"⟩ else .ok p.col
  | none => .error ⟨.badValue, "Invalid cell coordinates (" ++ r ++ ")"⟩

def rowCells (ctx : CellContext) (row : Nat) : Nat → List Node → Except Fault (List (Nat × Value))
  | _, [] => .ok []
  | col, c :: rest => do
    let col ← match c.attr? "r" with
      | some r => positionColumn r
      | none => pure (col + 1)
    let v ← cellValue ctx c
    let more ← rowCells ctx row col rest
    pure ((col, v) :: more)

def lastOfColumns (cells : List (Nat × Value)) : List (Nat × Value) :=
  cells.foldl (fun acc (c, v) => acc.filter (·.1 != c) ++ [(c, v)]) []

def wholeNumber (t : String) : Option Nat :=
  match Text.readInteger t with
  | some n => some n.toNat
  | none =>
    match Number.readDecimal t.trimAscii.toString with
    | some (neg, d, e) =>
      let n : Int := if e ≥ 0 then d * Int.pow 10 e.toNat
        else if d % Int.pow 10 (-e).toNat = 0 then d / Int.pow 10 (-e).toNat else -1
      if n < 0 then none else some (if neg then 0 else n.toNat)
    | none => none

def sheetRows (ctx : CellContext) : Nat → Nat → List Node → Except Fault (List (Nat × List (Nat × Value)))
  | _, _, [] => .ok []
  | prev, top, row :: rest => do
    let n ← match row.attr? "r" with
      | none => pure (prev + 1)
      | some r => match wholeNumber r with
        | some n => pure n
        | none => throw ⟨.badValue, r ++ " is not a valid row number"⟩
    let cells ← rowCells ctx n 0 (row.children.filter fun c => c matches .element _ _ _)
    let more ← sheetRows ctx n (max top n) rest
    pure (if n > top then (n, lastOfColumns cells) :: more else more)

def dimensionRow (sheet : Node) : Option Nat := do
  let ref ← (sheet.child? "dimension").bind (·.attr? "ref")
  let last := (Text.cut ref ":").getLastD ref
  let p ← Position.ofName? (String.ofList (last.toList.filter (· ≠ '$')))
  pure p.row

def readSheet (ctx : CellContext) (title : String) (part : Node) : Except Fault Sheet := do
  let rows := ((part.child? "sheetData").map (·.childrenNamed "row")).getD []
  let read ← sheetRows ctx 0 0 rows
  let top := read.foldl (fun m (n, _) => max m n) 0
  let limit := (dimensionRow part).getD top
  let kept := read.filter fun (n, _) => n ≤ 2 || n ≤ limit
  pure { title
         cells := kept.flatMap fun (n, cells) => cells.map fun (c, v) => ((⟨n, c⟩ : Position), v)
         extent := min limit top }

/-! ## The workbook -/

/-- Read a workbook file: the sheets the workbook part lists whose parts are in the archive,
in order. -/
def ofBytes (bytes : ByteArray) : Except Fault Workbook := do
  let members ← match Archive.directory bytes with
    | some ms => pure ms
    | none => throw ⟨.badArchive, "File is not a zip file"⟩
  let a : Package := { bytes, members }
  let types ← a.root "[Content_Types].xml"
  let strings ← match partOfType types sharedStringsType with
    | some p => do
      match ← a.root? (String.ofList (p.toList.drop 1)) with
      | some sst => pure (sharedStrings sst)
      | none => pure #[]
    | none => pure #[]
  let bookPart ← workbookPart types
  let book ← a.root bookPart
  let relsPath := relationsPath bookPart
  let rels ← a.root relsPath
  let targets := relations rels relsPath
  let from1904 := match (book.child? "workbookPr").bind (·.attr? "date1904") with
    | some v => v = "1" || v = "true"
    | none => false
  let kinds := match a.root? "xl/styles.xml" with
    | .ok (some st) => numberKinds st
    | _ => #[]
  let ctx : CellContext := { strings, kinds, from1904 }
  let entries := ((book.child? "sheets").map (·.childrenNamed "sheet")).getD []
  let sheets ← entries.filterMapM fun e => do
    match e.attr? "id" with
    | none => pure none
    | some i =>
      let target ← match targets.find? (·.1 == i) with
        | some (_, t) => pure t
        | none => throw ⟨.missingKey, "'Unknown relationship: " ++ i ++ "'"⟩
      match a.root? target with
      | .ok none => pure none
      | .ok (some part) => some <$> readSheet ctx ((e.attr? "name").getD "") part
      | .error f => throw f
  pure { sheets }

end RoadWeather.Workbook
