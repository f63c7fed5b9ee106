import RoadWeather.Condition.Basic

/-! # The temporary table of a condition

Each condition is computed in the database as a temporary table named by its identifier. -/

namespace RoadWeather.Condition

def dropStatement (id : String) : String := "DROP TABLE IF EXISTS " ++ id ++ ";\n"

def blockStatement (name query : String) : String :=
  "CREATE TEMP TABLE " ++ name ++ " ON COMMIT DROP AS (" ++ query ++ ");"

/-- Statement that makes the condition's table from the block tables `aliases`. -/
def masterStatement (id : String) (aliases : List String) (aliasFormula : String) : String :=
  let seq := "\nUNION \n".intercalate (aliases.map fun a =>
    "SELECT unnest( array [lower(valid_r), upper(valid_r)] ) AS vt FROM " ++ a)
  let joins := " \n".intercalate ("master_ranges" :: aliases.map fun a =>
    "LEFT JOIN " ++ a ++ " ON master_ranges.valid_r && " ++ a ++ ".valid_r")
  "\nCREATE TEMP TABLE " ++ id ++ " AS ( \n" ++
  "WITH master_seq AS ( \n" ++ seq ++ " \nORDER BY vt), \n" ++
  "master_ranges_wlastnull AS ( \n" ++
  "SELECT vt AS vfrom, LEAD(vt, 1) OVER (ORDER BY vt) AS vuntil \n" ++
  "FROM master_seq), \n" ++
  "master_ranges AS ( \n" ++
  "SELECT tstzrange(vfrom, vuntil) AS valid_r \n" ++
  "FROM master_ranges_wlastnull \n" ++
  "WHERE vuntil IS NOT NULL) \n" ++
  "SELECT \n" ++
  "lower(master_ranges.valid_r) AS vfrom, \n" ++
  "upper(master_ranges.valid_r) AS vuntil, \n" ++
  "upper(master_ranges.valid_r)-lower(master_ranges.valid_r) AS vdiff, \n" ++
  ", \n".intercalate aliases ++ ", \n" ++
  "(" ++ aliasFormula ++ ") AS master \nFROM " ++ joins ++ ");"

/-! ## Running the statements -/

def blockStatements : Nat → Nat → List String → Act Condition (List String)
  | 0, _, acc => pure acc.reverse
  | k + 1, i, acc => do
    let q ← onBlock i Block.sql
    let name := ((← Act.self).blocks.getD i default).aliasName
    blockStatements k (i + 1) (blockStatement name q :: acc)

abbrev OnLink := Condition × Link

def onCondition (a : Act Condition α) : Act OnLink α := Act.focus (·.1) (fun p c => (c, p.2)) a

def onLink (a : Act Link α) : Act OnLink α := Act.focus (·.2) (fun p l => (p.1, l)) a

/-- Make the condition's table in the database when `connected`: build the statements (a
block that is not ready stops this with a problem), log them, then run them with a commit
after each. A condition of one block fails here: its statement cannot be built. -/
def makeTable (connected : Bool) : Act OnLink Unit := do
  let c := (← Act.self).1
  Act.note .info .condition ("Creating temp table " ++ c.idString)
  let drop := dropStatement c.idString
  match ← onCondition (Act.attempt (blockStatements c.blocks.length 0 [])) with
  | .error _ =>
    onCondition (report "Cannot build Block SQL definition, skipping temp table creation" .error)
  | .ok defs =>
    let c := (← Act.self).1
    if c.blocks.length = 1 then
      Act.fail .wrongKind "'odict_keys' object is not subscriptable"
    let create := "\n".intercalate defs ++
      masterStatement c.idString (c.blocks.map (·.aliasName)) c.aliasFormula
    Act.note .debug .condition ("\n" ++ drop)
    Act.note .debug .condition ("\n" ++ create)
    if !connected then
      onCondition (report "No pg_conn: temp table creation SQL is not run" .warning)
    else
      let run : Act OnLink Unit := do
        let _ ← onLink (Link.execute drop)
        onLink Link.commit
        let _ ← onLink (Link.execute create)
        onLink Link.commit
        Act.note .info .condition ("Temp table created for " ++ (← Act.self).1.text)
      match ← Act.attempt run with
      | .ok () => pure ()
      | .error _ =>
        onLink Link.rollback
        onCondition (report "Failed to create temp table" .error)

end RoadWeather.Condition
