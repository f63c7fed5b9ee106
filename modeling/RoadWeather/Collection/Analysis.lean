import RoadWeather.Collection.Database
import RoadWeather.Collection.Report

/-! # The analysis of a collection -/

namespace RoadWeather

namespace Collection

/-- The reports an analysis is asked for. -/
structure Outputs where
  workbook : Option Workbook := none
  workbookPath : Option String := none
  slidesPath : Option String := none
  pictures : Option (String × Bool) := none
  deriving Inhabited

/-- The reports an analysis made. -/
structure Produced where
  workbook : Option Workbook := none
  slides : Option (List Slide) := none
  deriving Inhabited

def analyse (elapsed : String) : Act OnLink Unit := do
  Act.note .info .collection ("Starting analysis of " ++ (← Act.self).1.text)
  setupView
  Act.note .info .collection "obs_main db view created"
  makeTables
  Act.note .info .collection "Temp tables created for conditions"
  Act.note .info .collection "Starting to fetch results from database ..."
  fetchAll
  Act.note .info .collection ("Results fetched in " ++ elapsed)

def reportSheet (wb : Workbook) (path : Option String) : Act OnLink Workbook := do
  Act.note .info .collection "Creating Excel sheet ..."
  let wb ← match toWorksheet (← Act.self).1 wb with
    | .ok wb => pure wb
    | .error f => throw f
  if let some path := path then
    Act.note .info .collection ("Excel sheet saved to " ++ path)
  return wb

def reportSlides (path : String) (template : Bool) (pictures : Option (String × Bool)) :
    Act OnLink (List Slide) := do
  Act.note .info .collection ("Saving Powerpoint report as " ++ path ++ " ...")
  if !template then Act.fail .general ("Package not found at 'report_template.pptx'")
  let ss ← onSelf (slides pictures)
  Act.note .info .collection (path ++ " saved")
  return ss

def runAnalysis (out : Outputs) (elapsed : String) : Act OnLink Produced := do
  analyse elapsed
  let wb ← match out.workbook with
    | some wb => some <$> reportSheet wb out.workbookPath
    | none => do
      Act.note .warning .collection ("No Excel sheet saved from " ++ (← Act.self).1.text)
      pure none
  let shown ← match out.slidesPath with
    | some path => some <$> reportSlides path true out.pictures
    | none => do
      Act.note .warning .collection ("No Powerpoint report saved from " ++ (← Act.self).1.text)
      pure none
  return { workbook := wb, slides := shown }

end Collection

end RoadWeather
