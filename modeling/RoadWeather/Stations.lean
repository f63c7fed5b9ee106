import RoadWeather.Value

/-! # Stations and sensors known without a database -/

namespace RoadWeather

/-- Ids of the known stations, in increasing order. -/
def localStations : List Nat := [
  1001, 1002, 1003, 1004, 1005, 1006, 1007, 1009, 1010, 1011, 1012, 1013,
  1014, 1015, 1016, 1017, 1018, 1019, 1020, 1021, 1022, 1030, 1032, 1034,
  1035, 1036, 1037, 1041, 1042, 1043, 1044, 1045, 1046, 1047, 1048, 1049,
  1050, 1051, 1052, 1053, 1054, 1055, 1056, 1057, 1058, 1059, 1060, 1061,
  1062, 1063, 1064, 1065, 1066, 1067, 1068, 1069, 1070, 1071, 1072, 1073,
  1074, 1075, 1076, 1078, 1079, 1080, 1081, 1082, 1083, 1085, 1086, 1087,
  1088, 1089, 1090, 1091, 1092, 1093, 1094, 1095, 1096, 1097, 1098, 1099,
  1100, 1101, 1103, 1104, 1105, 1106, 1107, 1108, 1109, 1110, 1111, 1112,
  1113, 1114, 1115, 1116, 1118, 1119, 1120, 1121, 1122, 1123, 1124, 1125,
  1126, 1127, 1128, 1129, 1130, 1131, 1132, 1133, 1134, 1135, 1137, 1138,
  1139, 1140, 1141, 1142, 1143, 1144, 1145, 1146, 1147, 1148, 1149, 1150,
  1151, 1152, 1153, 1154, 1155, 1156, 1157, 1158, 1159, 1160, 1161, 1162,
  1163, 1164, 2002, 2003, 2004, 2006, 2007, 2008, 2009, 2010, 2011, 2012,
  2013, 2014, 2015, 2016, 2017, 2018, 2019, 2020, 2022, 2023, 2025, 2026,
  2027, 2028, 2029, 2030, 2031, 2032, 2033, 2034, 2035, 2036, 2037, 2038,
  2039, 2040, 2041, 2042, 2043, 2044, 2045, 2046, 2047, 2048, 2049, 2050,
  2052, 2054, 2059, 2060, 2061, 2062, 2063, 2065, 2087, 2088, 2089, 2090,
  2091, 2092, 2094, 2095, 2096, 2097, 2098, 2099, 2100, 2101, 2102, 2103,
  2104, 2105, 2106, 2107, 2108, 2109, 2110, 2111, 2112, 2113, 2114, 2115,
  2116, 2117, 2118, 2119, 2121, 2122, 2123, 2124, 2125, 2126, 2127, 2128,
  2129, 2130, 3001, 3002, 3003, 3004, 3005, 3006, 3007, 3011, 3012, 3014,
  3015, 3016, 3022, 3023, 3024, 3026, 3029, 3030, 3031, 3032, 3033, 3034,
  3035, 3036, 3037, 3038, 3039, 3040, 3041, 3042, 3043, 3044, 3045, 3047,
  3048, 3049, 3050, 3051, 3052, 3053, 3054, 3056, 3057, 3058, 3059, 3062,
  3063, 3064, 3065, 3066, 3067, 3069, 3072, 3073, 3074, 3075, 3076, 3077,
  3078, 3079, 3080, 3081, 3082, 3083, 4001, 4002, 4003, 4004, 4005, 4006,
  4007, 4008, 4009, 4010, 4011, 4012, 4013, 4015, 4016, 4017, 4020, 4021,
  4022, 4023, 4024, 4025, 4027, 4028, 4029, 4030, 4031, 4032, 4034, 4035,
  4036, 4037, 4038, 4039, 4040, 4041, 4042, 4043, 4044, 4045, 4046, 4047,
  4048, 4049, 4050, 4051, 4052, 4053, 4055, 4056, 4057, 4058, 4059, 4060,
  4061, 4062, 4063, 4064, 4065, 4066, 4067, 4068, 5001, 5004, 5005, 5006,
  5007, 5008, 5009, 5011, 5012, 5013, 5014, 5015, 5016, 5019, 5020, 5021,
  5022, 5023, 5024, 5025, 5026, 5027, 5028, 5029, 5030, 6001, 6002, 6003,
  6004, 6005, 6006, 6007, 6008, 6009, 6010, 6011, 6012, 6013, 6014, 6015,
  6016, 6017, 6018, 6019, 6020, 6021, 6022, 6023, 6024, 6025, 6026, 6028,
  6029, 7001, 7002, 7003, 7004, 7005, 7006, 7007, 7008, 7009, 7010, 7011,
  7012, 7013, 7014, 7015, 7016, 7017, 7018, 7019, 7020, 7021, 7022, 7023,
  7024, 7025, 7026, 7027, 7028, 7029, 7030, 7031, 7032, 7033, 7034, 7035,
  8001, 8002, 8003, 8004, 8005, 8006, 8007, 8008, 8009, 8010, 8011, 8012,
  8014, 8015, 8016, 8017, 8018, 8019, 8020, 8021, 8023, 8024, 8025, 8029,
  8030, 8031, 8032, 8033, 8034, 8035, 8036, 8037, 8038, 8040, 8042, 8044,
  8046, 8064, 8065, 8066, 8067, 8068, 8069, 8071, 8072, 8073, 8074, 8075,
  8077, 8078, 8079, 8080, 9001, 9002, 9003, 9004, 9005, 9006, 9007, 9008,
  9009, 9010, 9011, 9012, 9013, 9014, 9015, 9016, 9017, 9018, 9019, 9020,
  9021, 9022, 9023, 9024, 9025, 9026, 9027, 9028, 9029, 9030, 9031, 9032,
  9033, 9034, 9035, 10001, 10002, 10003, 10004, 10005, 10006, 10007, 10008, 10009,
  10010, 10011, 10012, 10013, 10014, 10015, 10016, 10017, 10018, 10019, 10020, 10021,
  10022, 10023, 10024, 10025, 10026, 10027, 10028, 10029, 10030, 10031, 10032, 10033,
  10034, 10035, 10036, 10037, 10038, 10039, 10040, 10041, 10042, 10043, 10044, 10045,
  10046, 10047, 10048, 10049, 10050, 10051, 10052, 10053, 10054, 10055, 10056, 10057,
  10058, 10059, 11001, 11002, 11003, 11004, 11005, 11006, 11007, 11008, 12001, 12002,
  12003, 12004, 12005, 12006, 12007, 12008, 12009, 12010, 12011, 12012, 12013, 12014,
  12015, 12016, 12017, 12019, 12020, 12021, 12022, 12023, 12024, 12025, 12026, 12027,
  12028, 12029, 12030, 12031, 12032, 12033, 12034, 12035, 12036, 12038, 12039, 12040,
  12041, 12042, 12045, 12046, 12047, 12049, 12050, 12051, 12052, 12053, 12054, 12055,
  12056, 12057, 12058, 12059, 12060, 12061, 12062, 12063, 12064, 12065, 12066, 12067,
  12068, 13001, 13002, 13003, 13004, 13005, 13006, 13007, 13008, 13009, 13010, 13011,
  13012, 13013, 13014, 13015, 13016, 13017, 14001, 14002, 14003, 14004, 14005, 14007,
  14008, 14009, 14010, 14011, 14013, 14014, 14015, 14016, 14017, 14018, 14019, 14020,
  14021, 14022, 14023, 14024, 14025, 14026, 14027, 14028, 14029, 14030, 14031, 14032,
  14033, 14034, 14036, 14037, 14038, 14039, 14040, 14041, 14042, 14043, 14044, 14045,
  14046, 14047, 14048, 14049, 14050, 14051, 14054, 14055, 14056, 14057, 14058, 14059,
  14060, 14061, 16001, 16002, 16003, 16004, 16005, 16006, 16007, 16008, 16009, 16010,
  16011, 16012, 18005, 18006, 18007
]

/-- Known sensor names with their ids, in the order of the sensor catalogue. -/
def localSensors : List (String × Nat) := [
  ("ilma", 1), ("ilma_derivaatta", 2), ("tie_1", 3), ("tie_1_derivaatta", 4),
  ("tie_2", 5), ("tie_2_derivaatta", 6), ("maa_1", 7), ("maa_2", 8),
  ("kastepiste", 9), ("jaatymispiste_1", 10), ("jaatymispiste_2", 11), ("runko_1", 12),
  ("keskituuli", 16), ("maksimituuli", 17), ("tuulensuunta", 18), ("ilmanpaine", 19),
  ("ilman_kosteus", 21), ("sade", 22), ("sade_intensiteetti", 23), ("sadesumma", 24),
  ("sateen_olomuoto_pwdxx", 25), ("nakyvyys", 26), ("keli_1", 27), ("keli_2", 28),
  ("varoitus_1", 29), ("varoitus_2", 30), ("johtavuus_1", 31), ("johtavuus_2", 32),
  ("pintasignaali_1", 33), ("pintasignaali_2", 34), ("jaataajuus_1", 35), ("jaataajuus_2", 36),
  ("aseman_status_1", 37), ("aseman_status_2", 38), ("anturivika", 41), ("sade_tila", 48),
  ("kastepiste_ero_tie", 49), ("kosteuden_maara_1", 50), ("kosteuden_maara_2", 51), ("suolan_maara_1", 52),
  ("suolan_maara_2", 53), ("suolan_vakevyys_1", 54), ("suolan_vakevyys_2", 55), ("turvallisuuslampo_1", 56),
  ("turvallisuuslampo_2", 57), ("nakyvyys_metria", 58), ("kastepiste_ero_ilma", 73), ("pwd_status", 91),
  ("pwd_tila", 92), ("pwd_nak_tila", 93), ("lumen_syvyys", 94), ("aurinkoup", 98),
  ("valoisaa", 99), ("vallitseva_saa", 100), ("kuituvaste_pieni_1", 130), ("kuituvaste_pieni_2", 131),
  ("kuituvaste_suuri_1", 132), ("kuituvaste_suuri_2", 133), ("dsc_vastaanottimen_puhtaus", 135), ("dsc_status", 136),
  ("tie3", 172), ("tienpinnan_tila3", 174), ("varoitus3", 175), ("kitka3", 176),
  ("veden_maara3", 177), ("lumen_maara3", 178), ("jaan_maara3", 179), ("aseman_status3", 180),
  ("kitka3_luku", 181)
]

def localSensorTable : List (Value × Value) :=
  localSensors.map fun p => (.text p.1, .int (Int.ofNat p.2))

def localStationValues : List Value := localStations.map fun n => .int (Int.ofNat n)

end RoadWeather
