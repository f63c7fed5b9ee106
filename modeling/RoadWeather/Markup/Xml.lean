/-! # XML documents

A document is read into a tree of elements and text. -/

namespace RoadWeather.Markup

/-- An element with its attributes and children, or text. -/
inductive Node where
  | element (name : String) (attrs : List (String × String)) (children : List Node)
  | text (s : String)
  deriving Inhabited

def localName (s : String) : String :=
  match s.toList.reverse.span (· ≠ ':') with
  | (rest, _) => String.ofList rest.reverse

def lineEnds : List Char → List Char
  | [] => []
  | '\r' :: '\n' :: rest => '\n' :: lineEnds rest
  | '\r' :: rest => '\n' :: lineEnds rest
  | c :: rest => c :: lineEnds rest

def breakAt (stop : List Char) : List Char → List Char × List Char
  | [] => ([], [])
  | c :: cs =>
    if stop.isPrefixOf (c :: cs) then ([], (c :: cs).drop stop.length)
    else
      let (a, b) := breakAt stop cs
      (c :: a, b)

/-- The character a reference stands for (the text after `&` up to `;`), if any. -/
def reference (name : List Char) : Option Char :=
  match name with
  | ['l', 't'] => some '<'
  | ['g', 't'] => some '>'
  | ['a', 'm', 'p'] => some '&'
  | ['q', 'u', 'o', 't'] => some '"'
  | ['a', 'p', 'o', 's'] => some '\''
  | '#' :: 'x' :: hex =>
    if hex.isEmpty then none
    else hex.foldlM (fun (n : Nat) (c : Char) =>
      if c.isDigit then some (16 * n + (c.toNat - 48))
      else if 'a' ≤ c && c ≤ 'f' then some (16 * n + (c.toNat - 87))
      else if 'A' ≤ c && c ≤ 'F' then some (16 * n + (c.toNat - 55))
      else none) 0 |>.map Char.ofNat
  | '#' :: dec =>
    if dec.isEmpty || !dec.all Char.isDigit then none
    else some (Char.ofNat (dec.foldl (fun n c => 10 * n + (c.toNat - 48)) 0))
  | _ => none

def unescape (cs : List Char) : List Char :=
  match cs with
  | [] => []
  | '&' :: rest =>
    let name := rest.takeWhile (· ≠ ';')
    match reference name, rest.drop name.length with
    | some c, ';' :: _ => c :: unescape (rest.drop (name.length + 1))
    | _, _ => '&' :: unescape rest
  | c :: rest => c :: unescape rest
termination_by cs.length
decreasing_by
  all_goals simp only [List.length_drop, List.length_cons]
  all_goals omega

def tagEnd : Option Char → List Char → List Char × List Char
  | _, [] => ([], [])
  | none, '>' :: rest => ([], rest)
  | q, c :: rest =>
    let q' := match q with
      | none => if c = '"' || c = '\'' then some c else none
      | some d => if c = d then none else some d
    let (a, b) := tagEnd q' rest
    (c :: a, b)

def nameEnd (c : Char) : Bool := c = ' ' || c = '\t' || c = '\n' || c = '/' || c = '=' || c = '>'

def skipBlanks (cs : List Char) : List Char := cs.dropWhile fun c => c = ' ' || c = '\t' || c = '\n'

def attributeValue (cs : List Char) : String :=
  String.ofList (unescape (cs.map fun c => if c = '\t' || c = '\n' then ' ' else c))

/-- The attributes of a tag's inside, after its name. -/
def attributes : Nat → List Char → List (String × String)
  | 0, _ => []
  | fuel + 1, cs =>
    match skipBlanks cs with
    | [] => []
    | '/' :: rest => attributes fuel rest
    | cs =>
      let name := cs.takeWhile (fun c => !nameEnd c)
      let rest := skipBlanks (cs.drop name.length)
      match rest with
      | '=' :: rest =>
        match skipBlanks rest with
        | q :: rest =>
          if q = '"' || q = '\'' then
            let (value, after) := breakAt [q] rest
            (localName (String.ofList name), attributeValue value) :: attributes fuel after
          else attributes fuel rest
        | [] => []
      | _ => if name.isEmpty then attributes fuel (cs.drop 1) else attributes fuel rest

/-- What the content begins with. -/
inductive Piece where
  | start (name : String) (attrs : List (String × String)) (empty : Bool)
  | finish
  | text (s : String)
  | skip

/-- Read one piece from the content. -/
def piece (cs : List Char) : Piece × List Char :=
  match cs with
  | '<' :: '/' :: rest => (.finish, (tagEnd none rest).2)
  | '<' :: '!' :: '-' :: '-' :: rest => (.skip, (breakAt ['-', '-', '>'] rest).2)
  | '<' :: '!' :: '[' :: 'C' :: 'D' :: 'A' :: 'T' :: 'A' :: '[' :: rest =>
    let (t, after) := breakAt [']', ']', '>'] rest
    (.text (String.ofList t), after)
  | '<' :: '?' :: rest => (.skip, (breakAt ['?', '>'] rest).2)
  | '<' :: '!' :: rest => (.skip, (tagEnd none rest).2)
  | '<' :: rest =>
    let (inside, after) := tagEnd none rest
    let name := inside.takeWhile (fun c => !nameEnd c)
    let empty := inside.getLast? == some '/'
    (.start (localName (String.ofList name)) (attributes inside.length (inside.drop name.length))
      empty, after)
  | _ =>
    let t := cs.takeWhile (· ≠ '<')
    (.text (String.ofList (unescape t)), cs.drop t.length)

/-- An element being read: its name, attributes and the children read so far, last first. -/
structure Open where
  name : String
  attrs : List (String × String)
  children : List Node

def close : List Open → List Open
  | e :: parent :: rest =>
    { parent with children := .element e.name e.attrs e.children.reverse :: parent.children } ::
      rest
  | stack => stack

def addChild (n : Node) : List Open → List Open
  | e :: rest => { e with children := n :: e.children } :: rest
  | [] => []

def readPieces : Nat → List Char → List Open → List Open
  | 0, _, stack => stack
  | _, [], stack => stack
  | fuel + 1, cs, stack =>
    match piece cs with
    | (.start name attrs true, rest) => readPieces fuel rest (addChild (.element name attrs []) stack)
    | (.start name attrs false, rest) => readPieces fuel rest (⟨name, attrs, []⟩ :: stack)
    | (.finish, rest) => readPieces fuel rest (close stack)
    | (.text t, rest) => readPieces fuel rest (if t.isEmpty then stack else addChild (.text t) stack)
    | (.skip, rest) => readPieces fuel rest stack

def parse (s : String) : List Node :=
  let cs := lineEnds s.toList
  let stack := readPieces (cs.length + 1) cs [⟨"", [], []⟩]
  let closed := (List.range stack.length).foldl (fun st _ => close st) stack
  match closed with
  | root :: _ => root.children.reverse
  | [] => []

namespace Node

def name : Node → String
  | .element n _ _ => n
  | .text _ => ""

def children : Node → List Node
  | .element _ _ cs => cs
  | .text _ => []

def attr? (n : Node) (key : String) : Option String :=
  match n with
  | .element _ attrs _ => (attrs.find? (·.1 == key)).map (·.2)
  | .text _ => none

def childrenNamed (n : Node) (key : String) : List Node := n.children.filter (·.name == key)

def child? (n : Node) (key : String) : Option Node := (n.childrenNamed key).head?

def ownText (n : Node) : String :=
  String.join (n.children.filterMap fun c => match c with
    | .text s => some s
    | _ => none)

end Node

end RoadWeather.Markup
