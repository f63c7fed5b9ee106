/-! # Texts for sample workloads -/

namespace RoadWeather.Workload

def identifierInputs : List String :=
  let fine := ["Sipoo itään", "Aakkoslandia 1", "abc def", String.ofList (List.replicate 60 'a'),
    "Hello World Foo Bar Baz Qux"]
  fine ++ fine ++ fine ++
    ["stations", "1abc", String.ofList (List.replicate 70 'x'), "has-dash", "seobs"]

def blockInputs : List String :=
  ["s1120#keli_1 = 8", "s1115#tie_1 < -3", "s1122#tienpinnan_tila3 in (1,2,3,4,5)",
    "s1122#kitka3_luku >= 0.4", "s1115#nakyvyys_metria <> 600", "s1115#keskituuli <= 12",
    "s1115#maksimituuli > 17", "sipoo_itaan#a1", "d1", "s1120#keli_1 in 1,2,3",
    "s1120#a#b = 1", "keli_1 = 8", "s1120#keli_1 = 8 = 9", "1bad#keli_1 = 8", "1bad",
    "1bad#alias"]

def longTest (j : Nat) : String :=
  "s" ++ toString (1115 + j % 8) ++ "_long_station_identifier_name_here#dsc_vastaanottimen_puhtaus >= " ++
    toString j

def longFormula : String := " and ".intercalate ((List.range 30).map longTest)

def sampleA1 : String := "s1120#keli_1 = 8 and s1120#tie_1 < -3"

def sampleD1 : String :=
  "(s1115#keli_1 in (1,2,3,4,5) and s1120#keli_1 in (1,2,3,4,5) and " ++
    "s1122#tienpinnan_tila3 in (1,2,3,4,5)) or ((s1115#keli_1 = 8 and s1115#tie_1 >= 2) or " ++
    "(s1120#keli_1 = 8 and s1120#tie_1 >= 2)) and (s1122#kitka3_luku >= 0.4 or " ++
    "s1115#tie_1 >= 2) and (s1115#sade in (0,1) or (s1115#sade = 2 and s1115#keli_1 in (1,2))) " ++
    "and (s1115#nakyvyys_metria >= 600) and (s1115#keskituuli < 12 or s1115#maksimituuli < 17)"

def sampleD2 : String := "s1115#nakyvyys_metria >= 300 and s1115#nakyvyys_metria < 600 and d1"

def sampleC1 : String := "sipoo_itaan#a1 and (aakkoslandia_1#d1 or aakkoslandia_1#d2)"

def parseFormulas : List String :=
  [longFormula, sampleD1, longFormula, sampleA1, longFormula, sampleD2, sampleC1, longFormula,
    "not (s1120#keli_1 = 8) or s1120#tie_1 < -3", "s1120#keli_1 = 8 and s1120#keli_1 = 8",
    longFormula, "(s1120#keli_1 = 8 and s1120#tie_1 < -3))", ") and s1120#keli_1 = 8 and (",
    "s1120#keli_1 = 8 not s1120#tie_1 < -3", "not not s1120#keli_1 = 8", "()"]

def tableFormulas : List String :=
  [longFormula, sampleD1, sampleD2, "not (s1120#keli_1 = 8) or s1120#tie_1 < -3"]

def sheetTestCounts : List Nat := [30, 14, 30, 2, 30, 3, 3, 2, 30, 30, 14, 3, 30, 3, 3, 1]

end RoadWeather.Workload
