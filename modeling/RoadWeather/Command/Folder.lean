import RoadWeather.Fault
import RoadWeather.Value.Text
import RoadWeather.Text.Lower
import RoadWeather.Text.Pieces

/-! # The working folder of a batch run

The input workbook, the results folder and the slide template, found from the input path. -/

namespace RoadWeather.Command

open RoadWeather.Text

/-- A file with its contents, or a folder with named items. -/
inductive Node (α : Type) where
  | file (contents : α)
  | folder (items : List (String × Node α))
  deriving Inhabited

/-- What a path names. -/
inductive Found (α : Type) where
  | node (n : Node α)
  | missing
  | notFolder
  deriving Inhabited

def walk : List (Node α) → Node α → List String → Found α
  | _, here, [] => .node here
  | _, .file _, _ :: _ => .notFolder
  | up, .folder items, part :: rest =>
    if part = "" || part = "." then walk up (.folder items) rest
    else if part = ".." then
      match up with
      | [] => .missing
      | parent :: above => walk above parent rest
    else
      match items.find? (·.1 == part) with
      | none => .missing
      | some (_, n) => walk (.folder items :: up) n rest

def lookup (root : Node α) (path : String) : Found α :=
  if path.startsWith "/" then .missing else walk [] root (cut path "/")

def extension (path : String) : String :=
  let part := (cut path "/").getLastD ""
  let cs := part.toList
  match (List.range cs.length).reverse.find? (fun i => cs.getD i ' ' = '.') with
  | none => ""
  | some i => if (cs.take i).all (· = '.') then "" else String.ofList (cs.drop i)

def workbookExtensions : List String := [".xlsx", ".xlsm", ".xltx", ".xltm"]

def extensionFault (ext : String) : Fault :=
  let msg :=
    if ext = ".xls" then
      "openpyxl does not support the old .xls file format, please use xlrd to read this " ++
        "file, or convert it to the more recent .xlsx file format."
    else if ext = ".xlsb" then
      "openpyxl does not support binary format .xlsb, please convert this file to .xlsx " ++
        "format if you want to open it with openpyxl"
    else
      "openpyxl does not support " ++ ext ++ " file format, please check you can open it " ++
        "with Excel first. Supported formats are: " ++ ",".intercalate workbookExtensions
  ⟨.unsupportedFile, msg⟩

def notArchive : Fault := ⟨.badArchive, "File is not a zip file"⟩

def openFound (path : String) (found : Found (Except Fault β)) : Except Fault β :=
  let ext := lower (extension path)
  if !workbookExtensions.contains ext then .error (extensionFault ext)
  else
    match found with
    | .node (.file r) => r
    | .node (.folder _) => .error ⟨.isFolder, "[Errno 21] Is a directory: " ++ quoteText path⟩
    | .missing => .error ⟨.missingFile, "[Errno 2] No such file or directory: " ++ quoteText path⟩
    | .notFolder => .error ⟨.notFolder, "[Errno 20] Not a directory: " ++ quoteText path⟩

def openWorkbook (root : Node (Except Fault β)) (path : String) : Except Fault β :=
  openFound path (lookup root path)

end RoadWeather.Command
