import RoadWeather.Value.Text

/-! # Connection settings -/

namespace RoadWeather

/-- Database connection settings. -/
structure Settings where
  dbname : Value
  user : Value
  password : Value
  host : Value
  port : Value

def Settings.keys : List String := ["dbname", "user", "password", "host", "port"]

def Settings.ofEnv (env : List (String × String)) : Settings :=
  let get (k : String) (dflt : Value) : Value := ((env.lookup k).map Value.text).getD dflt
  { dbname := get "PG_DBNAME" (.text "tsa"), user := get "PG_USER" (.text "postgres"),
    password := get "PG_PASSWORD" (.text "postgres"), host := get "PG_HOST" (.text "localhost"),
    port := get "PG_PORT" (.int 5432) }

def Settings.pairs (s : Settings) : List (String × Value) :=
  [("dbname", s.dbname), ("user", s.user), ("password", s.password), ("host", s.host),
    ("port", s.port)]

def padName (k : String) : String := k ++ String.ofList (List.replicate (8 - k.length) ' ')

def Settings.text (s : Settings) : String :=
  "DBParams\n" ++ String.join (s.pairs.map fun (k, v) =>
    padName k ++ ": " ++ (if k = "password" then "(not shown)" else v.plain) ++ ", ")

end RoadWeather
