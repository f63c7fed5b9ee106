import RoadWeather.Workbook

/-! # Sample workbooks -/

namespace RoadWeather

/-- The sample whose conditions are all fine. -/
def workingSample : Workbook :=
  { sheets := [
    { title := "Toimiva_setti"
      extent := 7
      cells := [
      (⟨1, 1⟩, .text "start"),
      (⟨1, 2⟩, .text "end"),
      (⟨1, 3⟩, .nothing),
      (⟨2, 1⟩, .text "1.2.2018"),
      (⟨2, 2⟩, .text "31.3.2018"),
      (⟨2, 3⟩, .nothing),
      (⟨3, 1⟩, .text "site"),
      (⟨3, 2⟩, .text "master_alias"),
      (⟨3, 3⟩, .text "condition"),
      (⟨3, 4⟩, .text "Sarakkeita D → ei lueta, joten niihin voi vapaasti laittaa esim. kommentteja. Ne eivät kuitenkaan tule mukaan tulos-Exceliin."),
      (⟨4, 1⟩, .text "Sipoo itään"),
      (⟨4, 2⟩, .text "A1"),
      (⟨4, 3⟩, .text "s1120#keli_1 = 8 AND s1120#tie_1 < -3"),
      (⟨4, 4⟩, .text "Normaali ehto"),
      (⟨5, 1⟩, .text "Ääkköslandia 1"),
      (⟨5, 2⟩, .text "D1"),
      (⟨5, 3⟩, .text "(s1115#KELI_1 in (1,2,3,4,5) AND s1120#KELI_1 in (1,2,3,4,5) AND s1122#TIENPINNAN_TILA3 in (1,2,3,4,5)) OR ((s1115#KELI_1 = 8 AND s1115#TIE_1 >= 2) OR (s1120#KELI_1 = 8 AND s1120#TIE_1 >= 2)) AND (s1122#KITKA3_LUKU >= 0.4 OR s1115#TIE_1 >= 2) AND (s1115#SADE in (0,1) OR (s1115#SADE = 2 AND s1115#KELI_1 in (1,2))) AND (s1115#NAKYVYYS_METRIA >= 600) AND (s1115#KESKITUULI < 12 OR s1115#MAKSIMITUULI < 17)"),
      (⟨5, 4⟩, .text "Pitkä ehto"),
      (⟨6, 1⟩, .text "Ääkköslandia 1"),
      (⟨6, 2⟩, .text "D2"),
      (⟨6, 3⟩, .text "s1115#NAKYVYYS_METRIA >= 300 AND s1115#NAKYVYYS_METRIA < 600 AND D1"),
      (⟨6, 4⟩, .text "Sekaehto, jossa ensisijainen osa ja lopussa toissijainen osa eli viittaus D1-ehtoon"),
      (⟨7, 1⟩, .text "Yhdistelmä"),
      (⟨7, 2⟩, .text "C1"),
      (⟨7, 3⟩, .text "sipoo_itaan#A1 AND (aakkoslandia_1#D1 OR aakkoslandia_1#D2)"),
      (⟨7, 4⟩, .text "Toissijainen ehto. Huomaa, että koska A1, D1 ja D2 eivät ole sijainnissa “Yhdistelmä”, niiden sijainnit täytyy erikseen merkitä, ja tässä vielä ilman välilyöntejä ja ääkkösiä, jotta työkalu lukee ehdon oikein.")] }] }

/-- The sample full of mistakes. -/
def faultySample : Workbook :=
  { sheets := [
    { title := "Virheet_taulukossa"
      extent := 7
      cells := [
      (⟨1, 1⟩, .text "start"),
      (⟨1, 2⟩, .text "end"),
      (⟨1, 3⟩, .nothing),
      (⟨1, 4⟩, .text "Tämä taulukko on virheellisesti muotoiltu."),
      (⟨2, 2⟩, .text "31.3.2018"),
      (⟨2, 3⟩, .nothing),
      (⟨2, 4⟩, .text "Start-päivämäärä puuttuu"),
      (⟨3, 1⟩, .text "site"),
      (⟨3, 2⟩, .text "master_alias"),
      (⟨3, 3⟩, .text "condition"),
      (⟨4, 1⟩, .text "Sipoo itään"),
      (⟨4, 2⟩, .text "A1"),
      (⟨4, 3⟩, .text "s1120#keli_1 = 8 AND s1120#tie_1 < -3"),
      (⟨4, 4⟩, .text "(Toimiva ehto)"),
      (⟨5, 1⟩, .text "Sipoo länteen"),
      (⟨5, 3⟩, .text "s1120#keli_1 = 8 AND s1120#tie_1 < -3"),
      (⟨5, 4⟩, .text "master_alias puuttuu"),
      (⟨6, 4⟩, .text "Tyhjän rivin välissä pitäisi aiheuttaa virhe"),
      (⟨7, 1⟩, .text "Ääkköslandia 1"),
      (⟨7, 2⟩, .text "D2"),
      (⟨7, 3⟩, .text "s1115#NAKYVYYS_METRIA >= 300 AND s1115#NAKYVYYS_METRIA < 600 AND D1"),
      (⟨7, 4⟩, .text "(Toimiva ehto)")] },
    { title := "Syntaksivirheet"
      extent := 17
      cells := [
      (⟨1, 1⟩, .text "start"),
      (⟨1, 2⟩, .text "end"),
      (⟨1, 3⟩, .nothing),
      (⟨2, 1⟩, .text "1.2.2018"),
      (⟨2, 2⟩, .text "31.3.2018"),
      (⟨2, 3⟩, .nothing),
      (⟨3, 1⟩, .text "site"),
      (⟨3, 2⟩, .text "master_alias"),
      (⟨3, 3⟩, .text "condition"),
      (⟨3, 4⟩, .text "Sarakkeita D → ei lueta, joten niihin voi vapaasti laittaa esim. kommentteja. Ne eivät kuitenkaan tule mukaan tulos-Exceliin."),
      (⟨4, 1⟩, .text "Sipoo itään ja tämä on niin pitkä nimi sijainnille ettei se kelpaa sillä 40 merkin raja ylittyy"),
      (⟨4, 2⟩, .text "A1"),
      (⟨4, 3⟩, .text "s1120#keli_1 = 8 AND s1120#tie_1 < -3"),
      (⟨4, 4⟩, .text "Liian pitkä site-nimi"),
      (⟨5, 1⟩, .text "Sipoo itään ja tämä on niin pitkä nimi sijainnille ettei se kelpaa sillä 40 merkin raja ylittyy"),
      (⟨5, 2⟩, .text "liian_pitkä_master_alias_ei_kelpaa_jos_merkkimääräraja_ylittyy_vaikkapa_tähän_tapaan"),
      (⟨5, 3⟩, .text "s1120#keli_1 = 8 AND s1120#tie_1 < -3"),
      (⟨5, 4⟩, .text "Liian pitkä master_alias"),
      (⟨6, 1⟩, .text "Ääkköslandia 1"),
      (⟨6, 2⟩, .text "D1"),
      (⟨6, 3⟩, .text "(s1115#KELI_1 in (1,2,3,4,5) AND s1120#KELI_1 in (1,2,3,4,5) AND s1122#TIENPINNAN_TILA3 in (1,2,3,4,5)) OR ((s1115#KELI_1 = 8 AND s1115#TIE_1 >= 2) OR (s1120#KELI_1 = 8 AND s1120#TIE_1 >= 2)) AND (s1122#KITKA3_LUKU >= 0.4 OR s1115#TIE_1 >= 2) AND (s1115#SADE in (0,1) OR (s1115#SADE = 2 AND s1115#KELI_1 in (1,2))) AND (s1115#NAKYVYYS_METRIA >= 600) AND (s1115#KESKITUULI < 12 OR s1115#MAKSIMITUULI < 17)"),
      (⟨6, 4⟩, .text "Tämä on OK…"),
      (⟨7, 1⟩, .text "Ääkköslandia 1"),
      (⟨7, 2⟩, .text "D1"),
      (⟨7, 3⟩, .text "(s1115#KELI_1 in (1,2,3,4,5) AND s1120#KELI_1 in (1,2,3,4,5) AND s1122#TIENPINNAN_TILA3 in (1,2,3,4,5)) OR ((s1115#KELI_1 = 8 AND s1115#TIE_1 >= 2) OR (s1120#KELI_1 = 8 AND s1120#TIE_1 >= 2)) AND (s1122#KITKA3_LUKU >= 0.4 OR s1115#TIE_1 >= 2) AND (s1115#SADE in (0,1) OR (s1115#SADE = 2 AND s1115#KELI_1 in (1,2))) AND (s1115#NAKYVYYS_METRIA >= 600) AND (s1115#KESKITUULI < 12 OR s1115#MAKSIMITUULI < 17)"),
      (⟨7, 4⟩, .text "… mutta tämä ehto on edellisen duplikaatti"),
      (⟨8, 1⟩, .text "Sipoo itään"),
      (⟨8, 2⟩, .text "A3"),
      (⟨8, 3⟩, .text "keli_1 = 8 AND s1120#tie_1 < -3"),
      (⟨8, 4⟩, .text "Asemailmaisu puuttuu sensorin edestä"),
      (⟨9, 1⟩, .text "Sipoo itään"),
      (⟨9, 2⟩, .text "A4"),
      (⟨9, 3⟩, .text "1120#keli_1 = 8 AND s1120#tie_1 < -3"),
      (⟨9, 4⟩, .text "Asemailmaisusta puuttuu etu-”s”"),
      (⟨10, 1⟩, .text "Sipoo itään"),
      (⟨10, 2⟩, .text "A5"),
      (⟨10, 3⟩, .text "s1120#keli_1 = 8 NOT s1120#tie_1 < -3"),
      (⟨10, 4⟩, .text "Väärin käytetty NOT (välissä pitäisi olla mukana AND tai OR)"),
      (⟨11, 1⟩, .text "Sipoo itään"),
      (⟨11, 2⟩, .text "A6"),
      (⟨11, 3⟩, .text "s1120#keli_1 = 8 JA s1120#tie_1 < -3"),
      (⟨11, 4⟩, .text "JA englanninkielisen ANDin sijasta"),
      (⟨12, 1⟩, .text "Sipoo itään"),
      (⟨12, 2⟩, .text "A7"),
      (⟨12, 3⟩, .text "s1120#keli_10 = 8 AND s1120#tie_1 < -3"),
      (⟨12, 4⟩, .text "Puuttuva sensori: keli_10:ä ei ole olemassa"),
      (⟨13, 1⟩, .text "Sipoo itään"),
      (⟨13, 2⟩, .text "A8"),
      (⟨13, 3⟩, .text "s111220#keli_10 = 8 AND s1120#tie_1 < -3"),
      (⟨13, 4⟩, .text "Puuttuva asema: asemaa 111220 ei ole olemassa"),
      (⟨14, 1⟩, .text "Sipoo länteen"),
      (⟨14, 2⟩, .text "A1"),
      (⟨14, 3⟩, .text "s1120#keli_1 == 8 AND s1120#tie_1 =< -3"),
      (⟨14, 4⟩, .text "Virheellisiä operaattoreita “==” ja “=<”"),
      (⟨15, 1⟩, .text "Sipoo länteen"),
      (⟨15, 2⟩, .text "A2"),
      (⟨15, 3⟩, .text "(s1120#keli_1 = 8 AND s1120#tie_1 < -3))"),
      (⟨15, 4⟩, .text "Eri määrä auki- ja kiinni-sulkuja"),
      (⟨16, 1⟩, .text "Ääkköslandia 1"),
      (⟨16, 2⟩, .text "D2"),
      (⟨16, 3⟩, .text "E2"),
      (⟨16, 4⟩, .text "Toissijainen ehto, jonka viittausta E1 ei ole määritelty edellä ehtona"),
      (⟨17, 1⟩, .text "Ääkköslandia 1"),
      (⟨17, 2⟩, .text "D3"),
      (⟨17, 3⟩, .text "A3 OR A4"),
      (⟨17, 4⟩, .text "Toissijainen ehto, jonka viittaukset löytyvät mutta sijainnit niille eivät; Ääkköslandia 1:lle ei ole määritelty A3:sta tai A4:sta. Sen sijaan pitäisi lukea “sipoo_itaan#A3” jne.")] }] }

def sample? : String → Option Workbook
  | "toimiva.xlsx" => some workingSample
  | "virheita.xlsx" => some faultySample
  | _ => none

end RoadWeather
