namespace Vetted.Text.CharacterName

def ancient : List String :=
  ["10000:aLINEAR B SYLLABLE B008 Ae38 Ee28 Ie61 Oe10 Ue01 DAf45 DEf07 DIf14 DOf51 DUe7 JAf46 JE;1000d:f36 JOf65 JU",
    "f77 KAf44 KEf67 KIf70 KOf81 KUe0 MAf13 MEf73 MIf15 MOf23 MUf06 NAf24 NEf30 NIf52 NOe5 NUf03 PAf72 PEf39 PI",
    "f11 POf50 PUf16 QAf78 QEf21 QIf32 QO;10028:f60 RAf27 REf53 RIf02 ROf26 RUf31 SAf09 SEf41 SIf12 SOf58 SUe9 TA",
    "f04 TEf37 TIf05 TOf69 TUf54 WAf75 WEf40 WIe2 WO;1003c:f17 ZAf74 ZE;1003f:f20 ZOe5 A2f43 A3f85 AUf71 DWEg90 DWO",
    "g48 NWAg29 PU2g62 PTEg76 RA2g33 RA3g68 RO2f6 TA2g87 TWEg91 TWO;10050:pMBOL B018b9c22c34c47b9c56c63b4c79c82b3b6",
    "b9;10080:lIDEOGRAM B100 MANf2 WOMANh4 DEERg5 EQUIDgF MAREgM STALLIONl6F EWEfM RAMg7F SHE-GOATkM HE-GOATk8F SOW",
    "fM BOARh9F COWfM BULLi20 WHEATh1 BARLEYi2 OLIVEh3 SPICEh5 CYPERUSvMONOGRAM B127 KAPOg8 KANAKOuIDEOGRAM B130 OIL",
    "f1 WINEg2nMONOGRAM B133 AREPAh5 MERIsIDEOGRAM B140 BRONZEi1 GOLDg2b5 WOOLg6c50b1 HORNg2b3b4nMONOGRAM B156 TURO2",
    "tIDEOGRAM B157b8b9 CLOTHi60b1b2 GARMENTj3 ARMOURi4b5b6b7b8b9c70b1b2b3 MONTHh4b6 TREEg7b8b9c80b1b2b3b4b5b9c90",
    "b1 HELMETk220 FOOTSTOOLl5 BATHTUBk30 SPEARh1&h2b3 SWORDh4b6c40 WHEELED CHARIOTr1 CHARIOTj2 CHARIOT FRAME",
    "p3 WHEELh5b6nMONOGRAM B247 DIPTEtIDEOGRAM B248b9c51b2b3b4 DARTg5b6b7b8b9eVESSEL B155d200b1b2b3b4b5b6b7b8b9c10b1",
    "b2b3b4b5b6b7b8b9c21b2b6b7b8b9c50d305;10100:bdAEGEAN WORD SEPARATOR LINEeDOTsCHECK|;10107:kNUMBER ONEdTWOcHREE",
    "fFOURdIVEeSIXcEVENfEIGHTfNINEeTENcWENTYfHIRTYgFORTYeIFTYfSIXTYeEVENTYhEIGHTYgNINETYgONE HUNDREDlTWO HUNDRED",
    "kHREE HUNDREDnFOUR HUNDREDlIVE HUNDREDmSIX HUNDREDkEVEN HUNDREDnEIGHT HUNDREDnNINE HUNDREDmONE THOUSAND",
    "mTWO THOUSANDlHREE THOUSANDoFOUR THOUSANDmIVE THOUSANDnSIX THOUSANDlEVEN THOUSANDoEIGHT THOUSANDoNINE THOUSAND",
    "nTEN THOUSANDlWENTY THOUSANDoHIRTY THOUSANDpFORTY THOUSANDnIFTY THOUSANDoSIXTY THOUSANDnEVENTY THOUSAND",
    "qEIGHTY THOUSANDpNINETY THOUSAND;10137:wWEIGHT BASE UNITjFIRST SUBUNITnSECOND SUBUNIToTHIRD SUBUNIT",
    "nFOURTH SUBUNITvDRY MEASURE FIRST SUBUNITzLIQUID MEASURE FIRST SUBUNITbcMEASURE SECOND SUBUNIToTHIRD SUBUNIT",
    "bcGREEK ACROPHONIC ATTIC ONE QUARTERhHALFeDRACHMAlFIVEcFTYdVE HUNDREDhTHOUSANDlFTY THOUSANDmVE TALENTS",
    "mTEN TALENTSlFIFTY TALENTSnONE HUNDRED TALENTStFIVE HUNDRED TALENTSuONE THOUSAND TALENTSuFIVE THOUSAND TALENTS",
    "qSTATERSmTEN STATERSlFIFTY STATERSnONE HUNDRED STATERStFIVE HUNDRED STATERSuONE THOUSAND STATERS",
    "uTEN THOUSAND STATERSuFIFTY THOUSAND STATERSwTEN MNASoHERAEUM ONE PLETHRONuTHESPIAN ONEmHERMIONIAN ONE",
    "oEPIDAUREAN TWOoTHESPIAN TWOmCYRENAIC TWO DRACHMASvEPIDAUREAN TWO DRACHMASxTROEZENIAN FIVEeTENa ALTERNATE(",
    "bdHERMIONIAN TENoMESSENIAN TENnTHESPIAN TENcHIRTYoROEZENIAN FIFTYa ALTERNATE(bfHERMIONIAN FIFTYqTHESPIAN FIFTY",
    "fONE HUNDREDlTHREE HUNDREDwEPIDAUREAN FIVE HUNDREDxTROEZENIAN FIVE HUNDREDwHESPIAN FIVE HUNDRED",
    "vCARYSTIAN FIVE HUNDREDwNAXIAN FIVE HUNDREDtTHESPIAN ONE THOUSANDmFIVE THOUSANDwDELPHIC FIVE MNAS",
    "rSTRATIAN FIFTY MNAS;10190:bkROMAN SEXTANS.mUNCIA.kSEMUNCIA.lXTULA.mDIMIDIA SEXTULA.uSILIQUA.mDENARIUS.",
    "nQUINARIUS.oSESTERTIUS.pDUPONDIUS.oAS.hCENTURIAL.;101d0:uPHAISTOS DISC. PEDESTRIANjLUMED HEADlTATTOOED HEAD",
    "nCAPTIVEgHILDfWOMANfHELMETgGAUNTLETiTIARAfARROWfBOWdSHIELDgCLUBeMANACLESgTTOCKhSAWdLIDdBOOMERANG",
    "jCARPENTRY PLANEpDOLIUMgCOMBeSLINGfCOLUMNgBEEHIVEhSHIPeHORNdIDEeBULLS LEGjCATdRAMdEAGLEfDOVEeTUNNYfBEE",
    "dPLANE TREEkVINEePAPYRUShROSETTEhLILYeOX BACKhFLUTEfGRATERgSTRAINERhMALL AXEjWAVY BANDjCOMBINING OBLIQUE STROKE",
    "10280:brLYCIAN!AbEbBaHcGbDbIbWbZbTHcJbKbQbLbMbNbMMcNNcUbPbKKcRbSbTaTcANcENcHbX;102a0:pCARIAN!AbP2cDbLbUUUdRbLD",
    "cA2cQbBbMbObD2cTbSHa2dSbC-18eUbNNcXbNbTT2dPbSScIbEbUUUUeKa2cNDcUUcGa2cSTa2dNGcIIcC-39eTTcUUU2eRRcMBa2b3b4dLD2",
    "dE2cUUU3;102e0:rOPTIC EPACT THOUSANDS|oDIGIT ONEdTWOcHREEfFOURdIVEeSIXcEVENfEIGHTfNINEkNUMBER TENcWENTYfHIRTY",
    "gFORTYeIFTYfSIXTYeEVENTYhEIGHTYgNINETYgONE HUNDREDlTWO HUNDREDkHREE HUNDREDnFOUR HUNDREDlIVE HUNDRED",
    "mSIX HUNDREDkEVEN HUNDREDnEIGHT HUNDREDnNINE HUNDRED;10300:bgOLD ITALIC!AbBEcKEcDEcEbVEcZEcHEcTHEdIbKAcELbMbN",
    "bSHdObPEcSHEdKUcERbScTEcUbEKSdPHEdKHEdEFbRSdCHEdIIcUUcESSkNUMERAL ONEdFIVEeTENdFIFTY;1032d:nLETTER YE",
    "cNORTHERN TSEmSOUTHERN TSEbeGOTHIC!AHSAeBAIRKANhGIBAeDAGSeAIHVUSgQAIRTHRAiIUJAeHAGLeTHIUTHgEISdKUSMAfLAGUS",
    "fMANNAfNAUTHSgJERdURUSePAIRTHRAiNINETYgRAIDAfSAUILfTEIWSfWINJAfFAIHUfIGGWSfHWAIRfOTHALfNINE HUNDRED",
    "10350:baOLD PERMIC!ANcBURdGAIdDOIdEbZHOIeDZHOIfZATAeDZITAfIbKOKEeLEIdMENOEfNENOEfVOOIePEEIeREIdSIIdTAIdUbCHERY",
    "fSHOOIdCHOOIhYRYcERUeOaOcEFcHAcTSIUeVERdYERaIdATdIEcYUbAcIA;10380:uUGARITIC!ALPAeBETAeGAMLAfKHAdDELTAfHOcWO",
    "cZETAeHOTAeTETdYODdKAFdSHINeLAMDAfMEMdDHALeNUNdZUcSAMKAfAINdPUcSADEeQOPAeRASHAfTHANNAgGHAINfTOcIbUbSSU",
    "1039f:kWORD DIVIDERvOLD PERSIAN. AbIbUbKAbUcGAbUcXAcCAcJAbIcTAbUcDAbIbUcTHAdPAcBAcFAcNAbUcMAbIbUcYAcVAbIcRAbU",
    "cLAcSAcZAcSHAcSAdHA;103c8:cAURAMAZDAAa-2cHAmXSHAAYATHIYAmDAHYAAUSHa-2lBAGAdUUMISHmWORD DIVIDERmNUMBER ONEdTWO",
    "cENcWENTYgHUNDRED;10400:baDESERET $!LONG IbEbAaHcOaOhSHORT IbEbAaHcOaOiAYcOWcWUcYEEdHbPEEdBEEdTEEdDEEdCHEEeJEE",
    "dKAYdGAYdEFcVEEdETHdTHEEeEScZEEdESHdZHEEeERbLbMbNaGdOIcEWr%!LONG IbEbAaHcOaOhSHORT IbEbAaHcOaOiAYcOWcWUcYEEdH",
    "bPEEdBEEdTEEdDEEdCHEEeJEEdKAYdGAYdEFcVEEdETHdTHEEeEScZEEdESHdZHEEeERbLbMbNaGdOIcEWxSHAVIAN!PEEPeTOTdKICKeFEE",
    "dTHIGHfSObUREeCHURCHgYEAdHUNGeBIBdDEADeGAGdVOWdTHEYeZOOdMEASUREhJUDGEfWOEdHA-HAfLOLLeMIMEeIFcEGGdASHcDOdONcWOOL",
    "eOUTdAHcROAReNUNdEATdAGEdICEdUPcOAKcOZEdILdAWEcREdORcAIRdERRdARRAYfEARdIANdYEWsOSMANYA!ALEFeBAcTAcJAcXAcKHA",
    "dDEELeRAcSAbHIINfDHAdCAYNeGAcFAcQAAFeKAAFeLAANeMIINeNUUNeWAWdHAcYAcAbEbIbObUbAAcEEcOO;104a0:jDIGIT ZEROeONEdTWO",
    "cHREEfFOURdIVEeSIXcEVENfEIGHTfNINE;104b0:qAGE $!AaIaNcHcBRAdCHAdEHCHAfEaINdHAbYAdIbKAcEHKAeKYAdLAcMAcNAcOaINdPA",
    "cEHPAeSAbHAdTAcEHTAeTSAdEHTSAfTSHAeDHAdUbWAcKHAdGHAdZAbHA;104d8:s%!AaIaNcHcBRAdCHAdEHCHAfEaINdHAbYAdIbKAcEHKA",
    "eKYAdLAcMAcNAcOaINdPAcEHPAeSAbHAdTAcEHTAeTSAdEHTSAfTSHAeDHAdUbWAcKHAdGHAdZAbHA;10500:wELBASAN!AbBEcCEbHEdDEcNDE",
    "dDHEdEIcEbFEcGEbJEdHEcIbJEcKEcLEbLEdMEcNEbAbJEdObPEcQEcREbREdSEbHEdTEbHEdUbVEcXEcYbZEbHEdGHEbAMMAgKHE",
    "10530:sCAUCASIAN ALBANIAN!ALTdBETdGIMdDATdEBcZARLeEYNdZHILeTASdCHAdYOWDeZHAdIRBdSHAdLANdINYAeXEYNeDYANeCARdJHOX",
    "eKARdLYITeHEYTeQAYdAORdCHOYcIcYAYeMAQdQARdNOWCeDZYAYfSHAKeJAYNeONcTYAYeFAMdDZAYeCHATePENdGHEYSfRATdSEYKeVEYZ",
    "eTIWReSHOYeIWNdCYAWdAYNeYAYDePIWReKIW;1056f:kCITATION|bgVITHKUQI $!AbBBEcEcCEbHEdDEbHEdEIcEbFEcGA;1057c:cHAbHA",
    "dIaJEdJEcKAcLAbLAdMEcNEbJEdObPEcQAcRE;1058c:cSEbHEdTEbHEdUbVEcXE;10594:cYbZE;10597:r%!AbBBEcEcCEbHEdDEbHEdEIcE",
    "bFEcGA;105a3:cHAbHAdIaJEdJEcKAcLAbLAdMEcNEbJEdObPEcQAcRE;105b3:cSEbHEdTEbHEdUbVEcXE;105bb:cYbZE",
    "10600:yLINEAR A. AB001b2b3b4b5b6b7b8b9c10b1b3b6b7c20b1aFbMc2aFbMc3aMc4b6b7b8e028BeB029c30b1b4b7b8b9c40b1b4b5b6",
    "b7b8b9c50b1b3b4b5b6b7b8b9c60b1b5b6b7b9c70b3b4b6b7b8b9c80b1b2b5b6b7e100-102hB118c20e120BeB122b3c31AbBf131CeB164",
    "c71c80b8c91e301b2b3b4b5b6b7b8b9AbBbCd10b1b2b3AbBbCc4b5b6b7b8b9c20b1b2b3b4b5b6b7b8b9c30b1b2b3b4b5b6b7b8b9c40b1b2",
    "b3b4b5b6b7b8b9c50b1b2b3b4b5b6b7b8b9c60b1b2b3b4b5b6b7b8b9c70b1d400-VASf1-VASf2-VASf3-VASf4-VASf5-VASf6-VASf7-VAS",
    "f8-VASf9-VASg10-VASf1-VASf2-VASf3-VASf4-VASf5-VASf6-VASf7-VASf8-VASh501b2b3b4b5b6b8b9c10b1b2b3b5b6c20b1b3b4b5b6",
    "b7b8b9c30b1b2b4b5b6b7b8b9c40b1b2b5b7b8b9c50b1b2b3b4b5b6b7b9c63b4b5b6b8b9c70b1b2b3b4b5b6b7b8b9c80b1b2b3b4b5b6b7",
    "b8b9c91b2b4b5b6b8d600b1b2b3b4b6b8b9c10b1b2b3b4b5b6b7b8b9c20b1b2b3b4b6b7b8b9c34b7b8c40b2b3b4b5b6b8b9c51b2b3b4b5",
    "b6b7b8b9c60b1b2b3b4;10740:d701 Ad2 Bd3 Dd4 Ed5 Fd6 Hd7 Jd8 Kd9 Lc-2 L2e3 L3e4 L4e6 L6h10 Wd1 Xd2 Yd3 OMEGA",
    "h4 ABBf5 BBe7 DDf26 EYYYh32 JE;10760:g800b1b2b3b4b5b6b7;10800:sCYPRIOT SYLLABLE AbEbIbObUbJA;10808:bO;1080a:cKA",
    "bEbIbObUcLAbEbIbObUcMAbEbIbObUcNAbEbIbObUcPAbEbIbObUcRAbEbIbObUcSAbEbIbObUcTAbEbIbObUcWAbEbIbO;10837:cXAbE",
    "1083c:cZA;1083f:bOtIMPERIAL ARAMAIC!ALEPHfBETHeGIMELfDALETHgHEcWAWdZAYINfHETHeTETHeYODHeKAPHeLAMEDHgMEMdNUN",
    "dSAMEKHgAYINePEcSADHEfQOPHeRESHeSHINeTAW;10857:kSECTION.mNUMBER ONEdTWOcHREEeENcWENTYgONE HUNDREDhTHOUSAND",
    "mTEN THOUSANDbkPALMYRENE!ALEPHfBETHeGIMELfDALETHgHEcWAWdZAYINfHETHeTETHeYODHeKAPHeLAMEDHgMEMd^ NUNjNUNdSAMEKH",
    "gAYINePEcSADHEfQOPHeRESHeSHINeTAWiFT-POINTING FLEURONv)-POINTING FLEURONwNUMBER ONEdTWOcHREEfFOURdIVEeTENcWENTY",
    "xNABATAEAN!^ ALEPHlALEPHf^ BETHkBETHeGIMELfDALETHg^ HEiHEcWAWdZAYINfHETHeTETHe^ YODHkYODHe^ KAPHkKAPHe^ LAMEDH",
    "mLAMEDHg^ MEMjMEMd^ NUNjNUNdSAMEKHgAYINePEcSADHEfQOPHeRESHe^ SHINkSHINeTAW;108a7:kNUMBER ONEdTWOcHREEfFOUR",
    "lCRUCIFORM NUMBER FOURvNUMBER FIVEeTENcWENTYgONE HUNDRED;108e0:bcHATRAN!ALEPHfBETHeGIMELfDALETH-RESHlHEcWAW",
    "dZAYNeHETHeTETHeYODHeKAPHeLAMEDHgMEMdNUNdSAMEKHgAYNdPEcSADHEfQOPH;108f4:eSHINeTAW;108fb:kNUMBER ONEdFIVEeTEN",
    "cWENTYgONE HUNDREDzPHOENICIAN!ALFdBETdGAMLeDELTeHEcWAUdZAIdHETdTETdYODdKAFdLAMDeMEMdNUNdSEMKeAINdPEcSADEeQOF",
    "dROSHeSHINeTAUkNUMBER ONEdTENcWENTYgONE HUNDREDlTWOcHREE;1091f:mWORD SEPARATORzLYDIAN!AbBbGbDbEbVbIbYbKbLbMbNbO",
    "bRbSScTbUbFbQbSbTTcANcENcLYcNNcC;1093f:iTRIANGULAR|;10980:wMEROITIC HIEROGLYPHIC!AbEbIbObYAcWAcBAa-2ePAcMAcNA",
    "a-2dEa-2eRAa-2eLAcKHAdHHAdSAa-2dEcKAcQAcTAa-2dEa-2dOcDAjSYMBOL VIDJa-2baCURSIVE!AbEbIbObYAcWAcBAcPAcMAcNAbEcRA",
    "cLAcKHAdHHAdSAcARCHAIC SAkSEcKAcQAcTAbEbOcDA;109bc:jFRACTION ELEVEN TWELFTHSpONE HALFrLOGOGRAM RMTdIMN",
    "mNUMBER ONEdTWOcHREEfFOURdIVEeSIXcEVENfEIGHTfNINEeTENcWENTYfHIRTYgFORTYeIFTYfSIXTYeEVENTY;109d2:hONE HUNDRED",
    "lTWO HUNDREDkHREE HUNDREDnFOUR HUNDREDlIVE HUNDREDmSIX HUNDREDkEVEN HUNDREDnEIGHT HUNDREDnNINE HUNDRED",
    "mONE THOUSANDmTWO THOUSANDlHREE THOUSANDoFOUR THOUSANDmIVE THOUSANDnSIX THOUSANDlEVEN THOUSANDoEIGHT THOUSAND",
    "oNINE THOUSANDnTEN THOUSANDlWENTY THOUSANDoHIRTY THOUSANDpFORTY THOUSANDnIFTY THOUSANDoSIXTY THOUSAND",
    "nEVENTY THOUSANDqEIGHTY THOUSANDpNINETY THOUSANDpONE HUNDRED THOUSANDuTWO HUNDRED THOUSAND",
    "tHREE HUNDRED THOUSANDwFOUR HUNDRED THOUSANDuIVE HUNDRED THOUSANDvSIX HUNDRED THOUSANDtEVEN HUNDRED THOUSAND",
    "wEIGHT HUNDRED THOUSANDwNINE HUNDRED THOUSANDbcFRACTION ONE TWELFTHlTWO TWELFTHSlHREE TWELFTHSoFOUR TWELFTHS",
    "mIVE TWELFTHSnSIX TWELFTHSlEVEN TWELFTHSoEIGHT TWELFTHSoNINE TWELFTHSnTEN TWELFTHSbmKHAROSHTHI!AiVOWEL. IbU",
    "bVOCALIC R;10a05:jEbO;10a0c:gLENGTH|rSIGN > RING?rANUSVARAiVISARGAmLETTER KAbHAdGAbHA;10a15:dCAbHAdJA",
    "10a19:cNYAdTTAbHAeDDAbHAeNNAdTAbHAdDAbHAdNAcPAbHAdBAbHAdMAcYAcRAcLAcVAcSHAcSAcAcZAcHAcKKAdTTTHAcAeVHA",
    "10a38:kSIGN BAR+jCAUDAfDOT?;10a3f:oVIRAMAgDIGIT ONEdTWOcHREEfFOURkNUMBER TENcWENTYgONE HUNDREDhTHOUSAND",
    "tFRACTION ONE HALF;10a50:rPUNCTUATION DOTd% CIRCLEmCIRCLEfRESCENT BARmMANGALAMiLOTUSfDANDAeOUBLE DANDAmLINES",
    "10a60:bcOLD SOUTH ARABIAN!HEcLAMEDHgHETHeMEMdQOPHeWAWdSHINeRESHeBETHeTAWdSATdKAPHeNUNdKHETHfSADHEdMEKHgFEcALEF",
    "dYNdDHADHEgGIMELfDALETHgGHAYNfTETHeZAYNeDHALETHhYODHeTHAWcETHmNUMBER ONEdFIFTYjERIC INDICATOR",
    "bfNORTH ARABIAN!HEHdLAMdHAHdMEEMeQAFdWAWdES-2eREHdBEHdTEHdES-1eKAFdNOONeKHAHeSADdES-3eFEHdALEFdINdDADdGEEMeDAL",
    "dGHAINfTAHdZAINeTHALeYEHdTHEHeZAHkNUMBER ONEdTENcWENTY;10ac0:bfMANICHAEAN!ALEPHfBETHdHETHfGIMELeHIMELgDALETHgHE",
    "cWAWkSIGN UDhLETTER ZAYINeHAYINgJAYINeHAYINgHETHeTETHeYODHeKAPHeXAPHeKHAPHfLAMEDHgDHAMEDHhTHAMEDHhMEMdNUN",
    "dSAMEKHgAYINdAYINfPEcFEcSADHEfQOPHeXOPHeQHOPHfRESHeSHINdSHINfTAWkABBREVIATION|+fBELOW;10aeb:xNUMBER ONEdFIVE",
    "eTENcWENTYgONE HUNDREDsPUNCTUATION STAReFLEURONh> DOT WITHIN DOTtT WITHIN DOTmTdTWO DOTSiLINE FILLER",
    "10b00:biAVESTAN!AaAbObAOcNbANcEaEdEaEcOaOcIaIcUaUcKEcXEbYEcVEdGEbGEcHEdCEcJEcTEbHEdDEbHEdTTEdPEcFEcBEbHEdNGEbYE",
    "cVEdEbYEcNEdMEcHMEdYYEcEcVEcREcLEcSEcZEcSHEdZHEdSHYEdSHEeHE;10b39:jABBREVIATION|",
    "10b40:zINSCRIPTIONAL PARTHIAN!ALEPHfBETHeGIMELfDALETHgHEcWAWdZAYINfHETHeTETHeYODHeKAPHeLAMEDHgMEMdNUNdSAMEKH",
    "gAYINePEcSADHEfQOPHeRESHeSHINeTAW;10b58:kNUMBER ONEdTWOcHREEfFOUReTENcWENTYgONE HUNDREDhTHOUSANDbaHLAVI!ALEPH",
    "fBETHeGIMELfDALETHgHEcWAW-AYIN-RESHnZAYINfHETHeTETHeYODHeKAPHeLAMEDHgMEM-QOPHiNUNdSAMEKHgPEcSADHEeHINeTAW",
    "10b78:kNUMBER ONEdTWOcHREEfFOUReTENcWENTYgONE HUNDREDhTHOUSANDbpPSALTER PAHLAVI!ALEPHfBETHeGIMELfDALETHgHE",
    "cWAW-AYIN-RESHnZAYINfHETHeYODHeKAPHeLAMEDHgMEM-QOPHiNUNdSAMEKHgPEcSADHEeHINeTAW;10b99:kSECTION|mTURNED SECTION|",
    "tFOUR DOTS#CROSSfDOT;10ba9:sNUMBER ONEdTWOcHREEfFOUReTENcWENTYgONE HUNDRED;10c00:biOLD TURKIC!ORKHON A",
    "iYENISEI AaEkORKHON IiYENISEI IbEjORKHON OaEjYENISEI OEkORKHON ABjYENISEI ABkORKHON AEBkYENISEI AEBlORKHON AG",
    "jYENISEI AGkORKHON AEGkYENISEI AEGlORKHON ADjYENISEI ADkORKHON AEDdEZjYENISEI EZkORKHON AYjYENISEI AY",
    "kORKHON AEYkYENISEI AEYlORKHON AEKkYENISEI AEKlORKHON OEKkYENISEI OEKlORKHON ALjYENISEI ALkORKHON AELdELTcMcAN",
    "bENkYENISEI AENlORKHON ENTkYENISEI ENTlORKHON ENCkYENISEI ENClORKHON ENYkYENISEI ENYdANGlORKHON ENG",
    "kYENISEI AENGmORKHON EPcOPcICcECjYENISEI ECkORKHON AQjYENISEI AQkORKHON IQjYENISEI IQkORKHON OQjYENISEI OQ",
    "kORKHON ARjYENISEI ARkORKHON AERcSbEScSHkYENISEI ASHlORKHON ESHkYENISEI ESHlORKHON ATjYENISEI ATkORKHON AET",
    "kYENISEI AETlORKHON OTcBASH;10c80:zHUNGARIAN $!AaAcEBcAMBdECbNCcCScDcANDdEbCLOSE EhEEbFbGaYcHcIaIcEJbKcAKcUNK",
    "dELaYcMbNaYdOaOcNIKOLSBURG OEnRUDIMENTA OEmOEEdEPbMPcRcSHORT ERiESaZcTbNTcTYcCHdUaUcNIKOLSBURG UEnRUDIMENTA UE",
    "mEVbZaScNT-SHAPED.pUS;10cc0:r%!AaAcEBcAMBdECbNCcCScDcANDdEbCLOSE EhEEbFbGaYcHcIaIcEJbKcAKcUNKdELaYcMbNaYdOaO",
    "cNIKOLSBURG OEnRUDIMENTA OEmOEEdEPbMPcRcSHORT ERiESaZcTbNTcTYcCHdUaUcNIKOLSBURG UEnRUDIMENTA UEmEVbZaS",
    "cNT-SHAPED.pUS;10cfa:pNUMBER ONEdFIVEeTENdFIFTYfONE HUNDREDhTHOUSANDbhHANIFI ROHINGYA!AbBAcPAcTAbTAdJAcCAcHA",
    "cKHAdFAcDAbDAdRAbRAdZAcSAbHAdKAcGAcLAcMAcNAcWAcKINNA WAiYAcKINNA YAiNGAcYAdVAjVOWEL AbIbUbEbOhMARK SAKIN",
    "fNA KHONNAoSIGN HARBAHAYiTAHALAeNAcSSI;10d30:kDIGIT ZEROeONEdTWOcHREEfFOURdIVEeSIXcEVENfEIGHTfNINE",
    "10e60:baRUMI DIGIT ONEdTWOcHREEfFOURdIVEeSIXcEVENfEIGHTfNINEkNUMBER TENcWENTYfHIRTYgFORTYeIFTYfSIXTYeEVENTY",
    "hEIGHTYgNINETYgONE HUNDREDlTWO HUNDREDkHREE HUNDREDnFOUR HUNDREDlIVE HUNDREDmSIX HUNDREDkEVEN HUNDRED",
    "nEIGHT HUNDREDnNINE HUNDREDtFRACTION ONE HALFeQUARTERhTHIRDjTWO THIRDS;10e80:yYEZIDI!ELIFeBEcPEbHEdTHEdSEcCIM",
    "cHIMcHIMfHHAdXAcDALdZALdRAbHAdZAcJAcSINcHINdADdDADdTAcZEcEYNdXHEYNfFAcVAa ALTERNATE(rQAFdKAFcHAFeGAFdLAMdMIM",
    "dNUNdUMcWAWdOWcEWcHAYdYOTdET;10eab:jCOMBINING HAMZA|kMADDA|uHYPHENATION|;10eb0:qLETTER LAM#DOT+sYOT#CIRCUMFLEX+",
    "10f00:bnOLD SOGDIAN!ALEPHf^ ALEPHlBETHe^ BETHkGIMELfHEc^ HEiWAWdZAYINfHETHeYODHeKAPHeLAMEDHgMEMdNUNd^ NUN",
    "a#_ TAILbcSAMEKHgAYINdLTERNATE AYINoPEcSADHEf^ SADHEa#_ TAILbeRESH-AYIN-DALETHqSHINeTAWd^ TAWa#_ TAIL",
    "bjNUMBER ONEdTWOcHREEfFOURdIVEeTENcWENTYfHIRTYgONE HUNDREDsFRACTION ONE HALFrLIGATURE AYIN-DALETH",
    "10f30:bgSOGDIAN!ALEPHfBETHeGIMELfHEcWAWdZAYINfHETHeYODHeKAPHeLAMEDHgMEMdNUNdSAMEKHgAYINePEcSADHEfRESH-AYINjSHIN",
    "eTAWdFETHeLESHlINDEPENDENT SHINqCOMBINING DOT?jTWO DOTS?oDOT+jTWO DOTS+oCURVE+fBELOWlHOOK+fBELOWkLONG HOOK?",
    "pRESH?kSTROKE?wNUMBER ONEdTENcWENTYgONE HUNDREDsPUNCTUATION TWO _ BARSa#DOTSbbCIRCLE#DOTpTWO CIRCLES#DOTS",
    "vHALF CIRCLE#DOT;10f70:boOLD UYGHUR!ALEPHfBETHeGIMEL-HETHkWAWdZAYINf^ HETHkYODHeKAPHeLAMEDHgMEMdNUNdSAMEKHgPE",
    "cSADHEfRESHeSHINeTAWdLESHlCOMBINING DOT+fBELOWjTWO DOTS+fBELOWyPUNCTUATION BARdTWO BARSeDOTSiFOUR DOTS",
    "10fb0:bgCHORASMIAN!ALEPHf% ALEPHlBETHeGIMELfDALETHgHEcWAWdCURLED WAWkZAYINfHETHeYODHeKAPHeLAMEDHgMEMdNUNdSAMEKH",
    "gAYINePEcRESHeSHINeTAWkNUMBER ONEdTWOcHREEfFOUReTENcWENTYgONE HUNDRED;10fe0:bdELYMAIC!ALEPHfBETHeGIMELfDALETH",
    "gHEcWAWdZAYINfHETHeTETHeYODHeKAPHeLAMEDHgMEMdNUNdSAMEKHgAYINePEcSADHEfQOPHeRESHeSHINeTAWjIGATURE ZAYIN-YODH",
    "11000:bbBRAHMI. CANDRABINDUlANUSVARAiVISARGAhJIHVAMULIYAlUPADHMANIYAqLETTER AaAcIaIcUaUcVOCALIC RaRcLaLkEbAIcO",
    "bAUcKAbHAdGAbHAdNGAdCAbHAdJAbHAdNYAdTTAbHAeDDAbHAeNNAdTAbHAdDAbHAdNAcPAbHAdBAbHAdMAcYAcRAcLAcVAcSHAcSAcAcHAcLLA",
    "dOLD TAMIL LLLAeRRAdNNNAvVOWEL. AAcBHATTIPROLU AAoIaIcUaUcVOCALIC RaRcLaLkEbAIcObAUmIRAMAgDANDAeOUBLE DANDA",
    "mPUNCTUATION DOTbUBLE DOTkLINEeCRESCENT BARmLOTUS;11052:rNUMBER ONEdTWOcHREEfFOURdIVEeSIXcEVENfEIGHTfNINEeTEN",
    "cWENTYfHIRTYgFORTYeIFTYfSIXTYeEVENTYhEIGHTYgNINETYgONE HUNDREDhTHOUSANDtDIGIT ZEROeONEdTWOcHREEfFOURdIVEeSIX",
    "cEVENfEIGHTfNINEkSIGN OLD TAMIL VIRAMAvLETTER OLD TAMIL SHORT EbOyVOWEL. OLD TAMIL SHORT EbO",
    "bcLETTER OLD TAMIL LLA;1107f:uNUMBER JOINERuKAITHI. CANDRABINDUlANUSVARAiVISARGAmLETTER AaAcIaIcUaUcEbAIcObAU",
    "cKAbHAdGAbHAdNGAdCAbHAdJAbHAdNYAdTTAbHAeDDAbDHAdHAeRHAdNNAdTAbHAdDAbHAdNAcPAbHAdBAbHAdMAcYAcRAcLAcVAcSHAcSAcA",
    "cHAjVOWEL. AAcIaIcUaUcEbAIcObAUnSIGN VIRAMAgNUKTAkABBREVIATION.rENUMERATION.qNUMBER.lSECTION|m> SECTION|sANDA",
    "eOUBLE DANDAmVOWEL. VOCALIC R;110cd:uNUMBER.+;110d0:ySORA SOMPENG!SAHdTAHdBAHdCAHdDAHdGAHdMAHdNGAHeLAHdNAHdVAH",
    "dPAHdYAHdRAHdHAHdKAHdJAHdNYAHeAHcEEHdIHcUHcOHcEHcMAE;110f0:kDIGIT ZEROeONEdTWOcHREEfFOURdIVEeSIXcEVENfEIGHT",
    "fNINE;11100:xCHAKMA. CANDRABINDUlANUSVARAiVISARGAmLETTER AAcIbUbEbKAAcHAAeGAAcHAAeNGAAeCAAcHAAeJAAcHAAeNYAA",
    "eTTAAcHAAfDDAAcHAAfNNAAeTAAcHAAeDAAcHAAeNAAdPAAcHAAeBAAcHAAeMAAdYYAAdAAdRAAdLAAdWAAdSAAdHAAkVOWEL. AbIaIcUaUcE",
    "bAIcObAUcOInO|gAU|hVIRAMAgMAAYYAA;11136:hDIGIT ZEROeONEdTWOcHREEfFOURdIVEeSIXcEVENfEIGHTfNINEkSECTION|mDANDA",
    "eOUBLE DANDAmQUESTION|nLETTER LHAAlVOWEL. AAcEInLETTER VAA;11150:rMAHAJANI!AbIbUbEbObKAbHAdGAbHAdCAbHAdJAbHA",
    "dNYAdTTAbHAeDDAbHAeNNAdTAbHAdDAbHAdNAcPAbHAdBAbHAdMAcRAcLAcVAcSAcHAcRRAkSIGN NUKTAkABBREVIATION.rSECTION|",
    "mLIGATURE SHRI;11180:wSHARADA. CANDRABINDUlANUSVARAiVISARGAmLETTER AaAcIaIcUaUcVOCALIC RaRcLaLkEbAIcObAUcKAbHA",
    "dGAbHAdNGAdCAbHAdJAbHAdNYAdTTAbHAeDDAbHAeNNAdTAbHAdDAbHAdNAcPAbHAdBAbHAdMAcYAcRAcLAbLAdVAcSHAcSAcAcHAjVOWEL. AA",
    "cIaIcUaUcVOCALIC RaRcLaLkEbAIcObAUnSIGN VIRAMAgAVAGRAHAiJIHVAMULIYAlUPADHMANIYAqOMcDANDAeOUBLE DANDA",
    "mABBREVIATION.rSEPARATORiANDHI|kIGN NUKTAkVOWEL MODIFIER|tEXTRA SHORT VOWEL|wSUTRA|kVOWEL. PRISHTHAMATRA E",
    "baSIGN INVERTED CANDRABINDUzDIGIT ZEROeONEdTWOcHREEfFOURdIVEeSIXcEVENfEIGHTfNINEkEKAMeSIGN SIDDHAMmHEADSTROKE",
    "kCONTINUATION.rSECTION|-1b2;111e1:vINHALA ARCHAIC DIGIT ONEdTWOcHREEfFOURdIVEeSIXcEVENfEIGHTfNINEkNUMBER TEN",
    "cWENTYfHIRTYgFORTYeIFTYfSIXTYeEVENTYhEIGHTYgNINETYgONE HUNDREDhTHOUSAND;11200:bjKHOJKI!AaAcIbUbEbAIcObAUcKAbHA",
    "dGAbGAcHAdNGAdCAbHAdJAbJA;11213:dNYAdTTAbHAeDDAbHAeNNAdTAbHAdDAbDDAdHAdNAcPAbHAdBAbBAcHAdMAcYAcRAcLAcVAcSAcHA",
    "cLLAkVOWEL. AAcIaIcUbEbAIcObAUnSIGN ANUSVARAiVIRAMAgNUKTAfSHADDAlDANDAeOUBLE DANDAmWORD SEPARATORoSECTION|",
    "m> SECTION|tABBREVIATION.rSIGN SUKUN;11280:rMULTANI!AbIbUbEbKAbHAdGA;11288:bHA;1128a:dCAbHAdJAbJA;1128f:dNYA",
    "dTTAbHAeDDAbDAcHAeNNAdTAbHAdDAbHAdNAcPAbHAdBA;1129f:bHAdMAcYAcRAcLAcVAcSAcHAcRRAcHAkSECTION|;112b0:uKHUDAWADI!A",
    "aAcIaIcUaUcEbAIcObAUcKAbHAdGAbGAcHAdNGAdCAbHAdJAbJAcHAdNYAdTTAbHAeDDAbDAeRRAdDDHAeNNAdTAbHAdDAbHAdNAcPAbHAdBA",
    "bBAcHAdMAcYAcRAcLAcVAcSHAcAcHAjSIGN ANUSVARAnVOWEL. AAcIaIcUaUcEbAIcObAUnSIGN NUKTAfVIRAMA;112f0:lDIGIT ZERO",
    "eONEdTWOcHREEfFOURdIVEeSIXcEVENfEIGHTfNINE;11300:uGRANTHA. COMBINING ANUSVARA+xANDRABINDUlANUSVARAiVISARGA",
    "11305:mLETTER AaAcIaIcUaUcVOCALIC RbL;1130f:jEEcAI;11313:cOOcAUcKAbHAdGAbHAdNGAdCAbHAdJAbHAdNYAdTTAbHAeDDAbHA",
    "eNNAdTAbHAdDAbHAdNA;1132a:cPAbHAdBAbHAdMAcYAcRA;11332:cLAbLA;11335:dVAcSHAcSAcAcHA;1133c:jSIGN NUKTAfAVAGRAHA",
    "nVOWEL. AAcIaIcUaUcVOCALIC RaR;11347:kEEcAI;1134b:cOOcAUnSIGN VIRAMA;11350:lOM;11357:cAU LENGTH|",
    "1135d:oSIGN PLUTAkLETTER VEDIC ANUSVARAi> ANUSVARAuOCALIC RRcLLrVOWEL. VOCALIC LaL",
    "11366:bdCOMBINING GRANTHA DIGIT ZEROeONEdTWOcHREEfFOURdIVEeSIX;11370:jLETTER AbKAcNAcVIcPA;11400:bbNEWA!AaAcIaI",
    "cUaUcVOCALIC RaRcLaLkEbAIcObAUcKAbHAdGAbHAdNGAbHAeCAbHAdJAbHAdNYAbHAeTTAbHAeDDAbHAeNNAdTAbHAdDAbHAdNAbHAdPAbHA",
    "dBAbHAdMAbHAdYAcRAbHAdLAbHAdWAcSHAcSAcAcHAjVOWEL. AAcIaIcUaUcVOCALIC RaRcLaLkEbAIcObAUnSIGN VIRAMAgCANDRABINDU",
    "lANUSVARAiVISARGAhNUKTAfAVAGRAHAi^ ANUSVARAtOMcSIDDHIgDANDAeOUBLE DANDAmCOMMAfGAP FILLERkABBREVIATION.",
    "rDIGIT ZEROeONEdTWOcHREEfFOURdIVEeSIXcEVENfEIGHTfNINEjOUBLE COMMAmPLACEHOLDER|;1145d:qINSERTION.oSANDHI|",
    "lLETTER VEDIC ANUSVARAvSIGN JIHVAMULIYAlUPADHMANIYA;11480:vTIRHUTA ANJIeLETTER AaAcIaIcUaUcVOCALIC RaRcLaLkEbAI",
    "cObAUcKAbHAdGAbHAdNGAdCAbHAdJAbHAdNYAdTTAbHAeDDAbHAeNNAdTAbHAdDAbHAdNAcPAbHAdBAbHAdMAcYAcRAcLAcVAcSHAcSAcAcHA",
    "jVOWEL. AAcIaIcUaUcVOCALIC RaRcLaLkEbSHORT EhAIcObSHORT OhAUnSIGN CANDRABINDUlANUSVARAiVISARGAfRAMAgNUKTA",
    "fAVAGRAHAnGVANGfABBREVIATION.rOM;114d0:cDIGIT ZEROeONEdTWOcHREEfFOURdIVEeSIXcEVENfEIGHTfNINE;11580:sSIDDHAM!AaA",
    "cIaIcUaUcVOCALIC RaRcLaLkEbAIcObAUcKAbHAdGAbHAdNGAdCAbHAdJAbHAdNYAdTTAbHAeDDAbHAeNNAdTAbHAdDAbHAdNAcPAbHAdBAbHA",
    "dMAcYAcRAcLAcVAcSHAcSAcAcHAjVOWEL. AAcIaIcUaUcVOCALIC RaR;115b8:kEbAIcObAUnSIGN CANDRABINDUlANUSVARAiVISARGA",
    "fRAMAgNUKTAfSIDDHAMmDANDAeOUBLE DANDAmSEPARATOR DOTdBARnREPETITION|-1b2b3rEND OF TEXT|",
    "qSECTION|#TRIDENT*U-SHAPED ORNAMENTSsDOTTED CRESCENTSbcRAYS*DOTTED CRESCENTSj> CRESCENTSqTRIPLE CRESCENTS",
    "bl> RINGa#RAYSvWITH > CRESCENTSqTRIPLE CRESCENTSqQUADRUPLE CRESCENTStSEPTUPLE CRESCENTSsCIRCLES*RAYS",
    "eTWO ENCLOSURESoFOUR ENCLOSURESbtLETTER THREE-CIRCLE ALTERNATE IxWO-CIRCLE ALTERNATE IaIxALTERNATE U",
    "sVOWEL. ALTERNATE UaU;11600:bfMODI!AaAcIaIcUaUcVOCALIC RaRcLaLkEbAIcObAUcKAbHAdGAbHAdNGAdCAbHAdJAbHAdNYAdTTAbHA",
    "eDDAbHAeNNAdTAbHAdDAbHAdNAcPAbHAdBAbHAdMAcYAcRAcLAcVAcSHAcSAcAcHAcLLAkVOWEL. AAcIaIcUaUcVOCALIC RaRcLaLkEbAIcO",
    "bAUnSIGN ANUSVARAiVISARGAfRAMAgARDHACANDRAqDANDAeOUBLE DANDAmABBREVIATION.rSIGN HUVA;11650:jDIGIT ZEROeONEdTWO",
    "cHREEfFOURdIVEeSIXcEVENfEIGHTfNINE;11680:pTAKRI!AaAcIaIcUaUcEbAIcObAUcKAbHAdGAbHAdNGAdCAbHAdJAbHAdNYAdTTAbHA",
    "eDDAbHAeNNAdTAbHAdDAbHAdNAcPAbHAdBAbHAdMAcYAcRAcLAcVAcSHAcAcHAcRRAkSIGN ANUSVARAiVISARGAmVOWEL. AAcIaIcUaUcEbAI",
    "cObAUnSIGN VIRAMAgNUKTAkLETTER ARCHAIC KHAsABBREVIATION.;116c0:rDIGIT ZEROeONEdTWOcHREEfFOURdIVEeSIXcEVENfEIGHT",
    "fNINE;11700:qAHOM!KAbHAdNGAcAcTAcALTERNATE TAmPAbHAdBAcMAcJAcCHAdTHAdRAcLAcSAcNYAdHAcAbDAbHAdGAcALTERNATE GA",
    "mGHAdBHAdJHAdALTERNATE BA;1171d:tCONSONANT. MEDIAL LAcRAcLIGATING RAbhVOWEL. AaAcIaIcUaUcEbAWcObAIbM",
    "nSIGN KILLER;11730:lDIGIT ZEROeONEdTWOcHREEfFOURdIVEeSIXcEVENfEIGHTfNINEkNUMBER TENcWENTYnSIGN % SECTIONmECTION",
    "hRULAIjYMBOL VIjLETTER CAcTTAbHAeDDAbHAeNNAdLLA;11800:pDOGRA!AaAcIaIcUaUcEbAIcObAUcKAbHAdGAbHAdNGAdCAbHAdJAbHA",
    "dNYAdTTAbHAeDDAbHAeNNAdTAbHAdDAbHAdNAcPAbHAdBAbHAdMAcYAcRAcLAcVAcSHAcSAcAcHAcRRAkVOWEL. AAcIaIcUaUcVOCALIC RaR",
    "kEbAIcObAUnSIGN ANUSVARAiVISARGAfRAMAgNUKTAkABBREVIATION.;118a0:xWARANG CITI $!NGAAeAbWIcYUbAbOcIIcUUcEbObANG",
    "dGAcKOcENYdYUJdUCcENNdODDdTTEdNUNGeDAcATbMcBUcPUcHIYOdOLOcRRdARdSSUUdIIdVIYOt%!NGAAeAbWIcYUbAbOcIIcUUcEbObANG",
    "dGAcKOcENYdYUJdUCcENNdODDdTTEdNUNGeDAcATbMcBUcPUcHIYOdOLOcRRdARdSSUUdIIdVIYOrDIGIT ZEROeONEdTWOcHREEfFOURdIVE",
    "eSIXcEVENfEIGHTfNINEkNUMBER TENcWENTYfHIRTYgFORTYeIFTYfSIXTYeEVENTYhEIGHTYgNINETY;118ff:nOMoDIVES AKURU!AaAcIaI",
    "cUaUcE;11909:bO;1190c:bKAbHAdGAbHAdNGAdCAbHAdJA;11915:cNYAdTTA;11918:dDDAbHAeNNAdTAbHAdDAbHAdNAcPAbHAdBAbHAdMA",
    "cYAbYAdRAcLAcVAcSHAcSAcAcHAcLLAdZAjVOWEL. AAcIaIcUaUcE;11937:bAIcO;1193b:mSIGN ANUSVARAiCANDRABINDUlHALANTA",
    "mVIRAMAgPREFIXED NASAL.tMEDIAL YAjINITIAL RAkMEDIAL RAjSIGN NUKTAk> DANDAmGAP FILLERkEND OF TEXT|",
    "11950:qDIGIT ZEROeONEdTWOcHREEfFOURdIVEeSIXcEVENfEIGHTfNINE;119a0:wNANDINAGARI!AaAcIaIcUaUcVOCALIC RaR;119aa:kE",
    "bAIcObAUcKAbHAdGAbHAdNGAdCAbHAdJAbHAdNYAdTTAbHAeDDAbHAeNNAdTAbHAdDAbHAdNAcPAbHAdBAbHAdMAcYAcRAcLAcVAcSHAcSAcA",
    "cHAcLLAdRRAkVOWEL. AAcIaIcUaUcVOCALIC RaR;119da:kEbAIcObAUnSIGN ANUSVARAiVISARGAfRAMAgAVAGRAHAiSIDDHAM",
    "mHEADSTROKEkVOWEL. PRISHTHAMATRA E;11a00:bmZANABAZAR SQUARE!AiVOWEL. IbUEcUbEbOEcObAIbUcREVERSED IpLENGTH|",
    "rLETTER KAbHAdGAbHAdNGAdCAbHAdJAcNYAdTTAbHAeDDAbHAeNNAdTAbHAdDAbHAdNAcPAbHAdBAbHAdMAcTSAbHAeDZAbHAeZHAcAc-AcYA",
    "cRAcLAcVAcSHAcSAcAcHAcKSSAl^ CONSONANT|uSIGN VIRAMAgCANDRABINDUa#ORNAMENTt#ORNAMENTuANUSVARAiVISARGA",
    "mCLUSTER-INITIAL!RAr^!YAcRAcLAcVAxINITIAL HEAD|rCLOSING HEAD|rMARK TSHEGfSHADe> SHADlLONG TSHEG",
    "pINITIAL >-LINED HEAD|beCLOSING >-LINED HEAD|beSUBJOINER;11a50:baSOYOMBO!AiVOWEL. IbUEcUbEbOaEcAIbUcVOCALIC RbL",
    "oLENGTH|rLETTER KAbHAdGAbHAdNGAdCAbHAdJAbHAdNYAdTTAbHAeDDAbHAeNNAdTAbHAdDAbHAdNAcPAbHAdBAbHAdMAcTSAbHAeDZAdZHA",
    "cAc-AcYAcRAcLAcVAcSHAcSAcAcHAcKSSAlSIGN JIHVAMULIYAlUPADHMANIYAqCLUSTER-INITIAL!RAcLAcSHAcAz^ CONSONANT. GbKbNG",
    "cDbNbBbMbRbLbSHcSb-AxSIGN ANUSVARAiVISARGAmGEMINATION|pSUBJOINERjMARK TSHEGfSHADe> SHADlPLUTA",
    "kHEAD|#MOON*SUN*TRIPLE FLAMEmFLAMElNbbTERMINAL|-1b2;11ab0:xCANADIAN SYLLABICS NATTILIK HIaIcOaOcAaAdSHRIaIcOaO",
    "cAaA;11ac0:bhPAU CIN HAU!PAcKAcLAcMAcDAcZAcVAcNGAdHAcGAcKHAdSAcBAcCAcTAbHAdNAcPHAdRAcFAcCHAdAbEbIbObUaAcIAc^ P",
    "bKbTbMbNbLbWbNGcYoRISING TONE LONGgElSANDHI GLOTTAL STOPtRISING TONE LONG ^k^rSANDHI GLOTTAL STOP ^sTONE LONGgE",
    "a LONG ^k^rMID-LEVEL TONEoGLOTTAL STOP VARIANTuMID-LEVEL TONE LONG ^k^uLOW-FALLING TONE LONGgEqGLOTTAL STOP",
    "mLOW-FALLING TONE LONG ^k^wGLOTTAL STOP ^;11c00:beBHAIKSUKI!AaAcIaIcUaUcVOCALIC RaRcL;11c0a:jEbAIcObAUcKAbHAdGA",
    "bHAdNGAdCAbHAdJAbHAdNYAdTTAbHAeDDAbHAeNNAdTAbHAdDAbHAdNAcPAbHAdBAbHAdMAcYAcRAcLAcVAcSHAcSAcAcHAjVOWEL. AAcIaIcU",
    "aUcVOCALIC RaRcL;11c38:jEbAIcObAUnSIGN CANDRABINDUlANUSVARAiVISARGAfRAMAgAVAGRAHAnDANDAeOUBLE DANDA",
    "mWORD SEPARATORoGAP FILLER-1b2;11c50:mDIGIT ZEROeONEdTWOcHREEfFOURdIVEeSIXcEVENfEIGHTfNINEkNUMBER ONEdTWOcHREE",
    "fFOURdIVEeSIXcEVENfEIGHTfNINEeTENcWENTYfHIRTYgFORTYeIFTYfSIXTYeEVENTYhEIGHTYgNINETYnHUNDREDS UNIT|",
    "11c70:bcMARCHEN HEAD|jMARK SHADjLETTER KAbHAdGAcNGAdCAbHAdJAcNYAdTAbHAdDAcNAcPAbHAdBAcMAcTSAbHAeDZAdWAcZHAcAc-A",
    "cYAcRAcLAcSHAcAcHAcA;11c92:iSUBJOINED!KAbHAdGAcNGAdCAbHAdJAcNYAdTAbHAdDAcNAcPAbHAdBAcMAcTSAbHAeDZAdWAcZHAcA",
    "11ca9:cYAcRAcLAcSHAcAcHAcAsVOWEL. AAcIbUbEbOmSIGN ANUSVARAiCANDRABINDU;11d00:wSARAM GONDI!AaAcIaIcUaUcE",
    "11d08:bAIcO;11d0b:bAUcKAbHAdGAbHAdNGAdCAbHAdJAbHAdNYAdTTAbHAeDDAbHAeNNAdTAbHAdDAbHAdNAcPAbHAdBAbHAdMAcYAcRAcLA",
    "cVAcSHAcSAcAcHAcLLAdKSSAeJNYAeTRAkVOWEL. AAcIaIcUaUcVOCALIC R;11d3a:jE;11d3c:bAIcO;11d3f:bAUnSIGN ANUSVARA",
    "iVISARGAhNUKTAfCANDRAgHALANTAmVIRAMAgREPHAeA-KARA;11d50:hDIGIT ZEROeONEdTWOcHREEfFOURdIVEeSIXcEVENfEIGHTfNINE",
    "11d60:yGUNJALA GONDI!AaAcIaIcUaU;11d67:cEEcAI;11d6a:cOOcAUcYAcVAcBAbHAdMAcKAbHAdTAbHAdLAcGAbHAdDAbHAdNAcCAbHA",
    "dTTAbHAeLLAdJAbHAdDDAbHAeNGAdPAbHAdHAcRAcSAjVOWEL. AAcIaIcUaU;11d90:cEEcAI;11d93:cOOcAUnSIGN ANUSVARAiVISARGA",
    "mVIRAMAgOM;11da0:cDIGIT ZEROeONEdTWOcHREEfFOURdIVEeSIXcEVENfEIGHTfNINE;11ee0:yMAKASAR!KAcGAcNGAdPAcBAcMAcTAcDA",
    "cNAcCAcJAcNYAdYAcRAcLAcVAcSAcAiANGKAfVOWEL. IbUbEbOmPASSIMBANGkEND OF SECTION",
    "11fc0:wTAMIL FRACTION ONE THREE-HUNDRED-AND-TWENTIETHbbONE-HUNDRED-AND-SIXTIETHyEIGHTIETHjSIXTY-FOURTHmFORTIETH",
    "iTHIRTY-SECONDrTHREE EIGHTIETHSkSIXTY-FOURTHStONE TWENTIETHjSIXTEENTH-1b2lTENTHfEIGHTHkTHREE TWENTIETHS",
    "kSIXTEENTHSqONE FIFTHfQUARTERhHALF-1b2kTHREE QUARTERSoDOWNSCALING FACTOR KIIZH;12000:bnCUNEIFORM. Aa TIMES A",
    "bBADdGAN2 TENUjHAcIGIdLAGAR GUNUkMUSHeSAGk2bBa TIMES ASH2eDUN3 GUNUjGALbN2 TENUjHAcIGI GUNUhMINeLAGABfSHESH",
    "fU PLUS U PLUS UvGUNUf2a TIMES BALAGfGAN2 TENUjME PLUS ENkSHA3eTAK4nDbKa TIMES ERIN2fSHITA PLUS GISHxL",
    "a TIMES ALcDIM2eGISHeHAcKAD3dIcSHEdUSHkANcEPHeMARa TIMES SHEnNa OVER ANhTHREE TIMES",
    "lPLUS NAGA OPPOSING AN PLUS NAGAvSQUAREDsSHEePINdRADa TIMES KURmKABeSAL2dHa ZIDA TENUjKABA TENU",
    "jOVER ASH TUG2 OVER TUG2 TUG2 OVER TUG2 PAPbhOVER ASHa CROSSING ASH OVER ASH OVER ASHbx2bGABgBAaDbG3cHAR2eL",
    "a OVER BALjAGdRaA2eIa TIMES AbGARdIGI GUNUqUa OVER BU ABcUNkCROSSING BUmLUGa OVER BULUGoRa2eDAaG",
    "a KISIM5 TIMES A PLUS MASHkMAReBALAGeIcGAa PLUS MASHlIaR2dUDdHAcIRa PLUS LUkKAKdLAbUa PLUS MASH2lMdNE",
    "cPAP PLUS PAPmSIcTAK4eU2 PLUS GIR2lSHsMbRaA3b4eIaBbMa TIMES SHEk2cNa KASKAL U GUNU DISHuSHdUa OVER DUhGUNU",
    "eSHESHIGiBa TIMES ESH2l2cGaUDdHbNa3a GUNUa GUNUl4cR2eEa TIMES PAPjOVER E NUN OVER NUNu2",
    "a TIMES A PLUS HA PLUS DArGARdMIcSALcHEdUjDINdGIRdLbNa TIMES GAN2a TENUjMEiCROSSING ENlOPPOSING ENlSQUAREDjREN",
    "cIN2eSH2dZENa TIMES Aa PLUS LALa TIMES LALtNcBADdDUN3 GUNUa GUNUoHAa GUNUhIGI GUNUiKASKALa SQUAREDnU3dLA",
    "aL TIMES LALmIbUcU2bDnGAa GUNUf2a TIMES A PLUS DA PLUS HAkHAcIGIjB2 TENU PLUS TABqNbSHa2 PLUS GALnBADbR PLUS RA",
    "kURa PLUS RAlDAbIaM TIMES SHEmUBdELa PLUS LAjNa TIMES GAN2 TENUsGAN2 TENUhRcIa4a PLUS AiR2 PLUS SU",
    "mHA PLUS LU PLUS ESH2sLa PLUS LAkI PLUS LIjUB2eIGI GUNUhSH PLUS HU PLUS ASHuKAKbSKALfIDa PLUS LALlU3 PLUS ANlLA",
    "cME PLUS ENjIcNUNa OVER NUNmPAcSALbRcHEa PLUS TURkIDdUMdTAK4eUaDa PLUS DUqOVER GA2kBAa CROSSING GABAqD",
    "a OVER GAD GAR OVER GARxLa GAD OVER GAD GAR OVER GARbaAMdMbNa2a TENUeOVER GAN2jCROSSING GAN2qRa3cSHANfESHTIN",
    "a TIMES KURqIa TIMES EbUhCROSSING GIm4a OVER GI4iCROSSING GI4oDIMdR2a GUNUg3a TIMES A PLUS IGIkGAN2 TENUjIGI",
    "dLU PLUS IGIlPAlSALcHa CROSSING GISHnTIMES BADdTAK4jENUiUa CROSSING GUm2a TIMES KAKa TIMES IGI GUNUsNUN",
    "dSAL PLUS TUG2tGUNUgDa TIMES A PLUS KURkKURjOVER GUD LUGALqLbMa TIMES SHElRa7bUNbSHgHAa TENUeGUNUfLcI",
    "a TIMES ASHa2eBADdDISHeGADdKINdNUNdSHEdUjUaB2a TIMES ANcHALdKASKALgLISHeUDlL2eIa AcBbDIMa OVER IDIM BURdSQUARED",
    "vGaIa DIBdRIcOVER IGI SHIR OVER SHIR UD OVER UDbiGUNUhLa TIMES GAN2 TENUq2cMa TIMES TAK4kCROSSING IM",
    "lOPPOSING IMlSQUAREDiINdNbRbSHdKAa TIMES AaDa PLUS KU3kSH2eBADbLAGdRcIcERIN2eSH2eGAaLbN2 TENUhR",
    "a PLUS SHA3 PLUS AtIaR2cSH PLUS SARiCROSSING GISHrUaR7eIGIcMcKAKcIaDdLIbUcMEa PLUS DUcGIcTEjIa PLUS NUNUZnNEbUN",
    "dPIcRUcSAaRcHAbEbIDcUcIGcUHURfTARdUa2bDbMUM TIMES PAmSHdZIj2a CROSSING KA2oBbD2b3b4b5a OVER KAD5mK",
    "a TIMES IGI GUNUqLa TIMES BADjCROSSING KALoM2b4cSKALa LAGAB TIMES U OVER LAGAB TIMES U",
    "bgOVER KASKAL LAGAB TIMES U OVER LAGAB TIMES UbyESH2eIa TIMES BADdUaDjDbNbSALcHbIM5a OVER KISIM5rU",
    "a OVER HI TIMES ASH2 KU OVER HI TIMES ASH2bp3b4a VARIANT(o7bLa GUNUgNbRa OPPOSING KURoSHU2fWU318gLAaGAB",
    "a TIMES Aa PLUS DA PLUS HAkGARdLALjLbNbSH ZIDA TENUnBADcIcDARdENcGAaRcUDa PLUS GUDmHAaLcI TIMES NUNmIGI GUNUhM",
    "a PLUS HAcLUkKIaNcU3bLa PLUS HI PLUS AsLAGABeISHdUaLdMEa PLUS ENjUSHeNEcSHE PLUS SUMkITA PLUS GISH PLUS ERIN2",
    "kTENUsU2a PLUS SHU2nUMdTAGbK4dE PLUS A PLUS SU PLUS NAzUa PLUS AbU PLUS Uo2 PLUS ASHkDbSHjSQUAREDjRa TIMES SHE",
    "a PLUS SUMsGUNUa OVER LAGAR GUNU SHEbcHSHUeLa TIMES LALlMa TIMES KURa PLUS RUuIaLbMMU2eSHdUa TIMES BADk2",
    "a TIMES ALcBADdESH2a TENUjGAN2 TENUjHI TIMES BADmIMcKAD2b3a PLUS ASHmIcLA PLUS ASHjGABfME PLUS ENkNEbU",
    "cSI PLUS ASHjK2 PLUS BUmTUG2jENUeCROSSING LU2mOPPOSING LU2mSQUAREDgHESHIGj3bGALa OVER LUGALjPPOSING LUGAL",
    "oSHESHIGlHbLbMa OVER LUMa GAR OVER GARzMAa TIMES TAK4kGUNUf2bHbRbSHa2eEaScIaNcUa OVER MUiGa GUNUgNSUBeRGU2eSH",
    "a TIMES AbKURdZAiOVER MUSHa TIMES A PLUS NAzCROSSING MUSHo3a TIMES Aa PLUS DIjDIiGUNUkNAa2bGAa INVERTED",
    "iTIMES SHU TENUoOPPOSING NAGAoRdM NUTILLUjMa2dEa TIMES AbUDiSHESHIGjIa TIMES Ei2bMa TIMES GAN2 TENU",
    "hR PLUS GAN2 TENUbaNDA2a TIMES ANbSHa PLUS ASHmGUDdME PLUS GAN2 TENUrNEbUNdSHEa PLUS A ANdSHa PLUS ASH",
    "vU2 PLUS ASHkSHoSAGeUa11cNa LAGAR TIMES GARdMASHeSALa OVER NUN LAGAR TIMES SALbcUSHpTENUeOVER NUNiCROSSING NUN",
    "a LAGAR OVER LAGARbeUZa AB2 TIMES ASHGABgBIcDUGdGUDdIGI GUNUiKAD3eLAcNEcSILA3fU2mKISIM5 TIMES BIa UxPAaDbNbP",
    "cESH2eIa TIMES AaBcBIbUcEbIaBcUa2iCROSSING PImRIGa TIMES KALdUDcZAiOPPOSING PIRIGuRAaBcIbUcSAaG NUTILLUjG",
    "a TIMES AbDUaBdHAcKAKcURdLUMdMIcNUNdSALcHIDeTABdU2bBbMbRbSHjOVER SAGiGUNUgLa LAGAB TIMES ASH2sNGA2eRcHAa3",
    "a TIMES AbBADdGISHeNEcSHU2eTURdUa PLUS Aq6bB6cR2dEa HUcOVER SHE GAD OVER GAD GAR OVER GAR",
    "zTAB OVER TAB GAR OVER GARbjG9cNbSHa2bLAMgIDa TIMES AbIMkMa TIMES AbBALcULUGfDINdGARdIGIa GUNUiKUSHU2gLULdMUG",
    "dSALlNIGdRa TENUeOVER SHIR BUR OVER BURyTAdUa OVER INVERTED SHUs2bBURfIa GUNUfGa4a OVER SIG4 SHU2rK2cLA3eU",
    "a OVER SUiDa2cHURdMaASHeRa9eTAa ASTERISKiTIMES HIcMIiGUNUfBa OVER TAB NI OVER NI DISH OVER DISHbiSQUAREDjG",
    "a TIMES BIcGUDdSHEbUdTUG2eUDkK4cRcEa GUNUgIa TENUfLbRa TIMES TAK4kOVER TIRa GAD OVER GAD GAR OVER GARblUaG2cKbM",
    "bRa OVER TUR ZA OVER ZAxUa GUDdU UdOVER U PA OVER PA GAR OVER GARxSUR OVER SURmU REVERSED OVER U REVERSEDbi2bB",
    "bDa KUSHU2gTIMES BADdMIcU PLUS U PLUS Ua GUNUbaGUNUeSHESHIGa TIMES BADsUGdMa TIMES LAGABfME PLUS DAkSHA3eUiBIN",
    "dUMa TIMES KASKALgPAmNa GUNUgRa CROSSING URlSHESHIGi2a TIMES A PLUS HAcNAiLcHAcNUNdU2a PLUS ASHdBIs4bIa3cU",
    "a TIMES AaSHGABgBARdDUNdGAaLbN2 TENUhRcUcHAcIGIcMbSHdKIcLUMdMINdPAcSHEcIG4eTUcU PLUS GUDjDbRUDAmDAa TIMES UmSH",
    "a TIMES AbKUaRdTAK4lXb2bUMXfTUKIeZ3a TIMES KASKALoUdZAa TENUeSQUARED TIMES KURsGbMXdE2cIa OVER ZIi3bB",
    "a KABA TENUlGbZ2dUa5a TIMES AjBURdMdKAP ELAMITElAB TIMES NUNk2 TIMES AkMAR TIMES KUG",
    "oDAG KISIM5 TIMES U2 PLUS MASHba3dISH PLUS SHUmUB TIMES SHEnEZEN TIMES GUDdSHEoGA2 TIMES AN PLUS KAK PLUS ArSH2",
    "nE22dIGdHUSHeKA TIMES ANSHEeSH3eGISHdUDdHI TIMES ASH2nLUMdPAcSHULeTUcUR2mLAGAB TIMES GInU2 SHESHIG TIMES BAD",
    "rTIMES ESH2 PLUS LALnSHUnMESHdUSH3 TIMES ZAoNA4cINa9bDA2 TIMES BALdGIoU11 ROTATED NINETY DEGREES",
    "bbPESH2 ASTERISKnIR2eSAG TIMES IGI GUNUsTI2dUM TIMES MEk U;12400:iNUMERIC. TWO ASHgHREE ASHjFOUR ASHhIVE ASH",
    "iSIX ASHgEVEN ASHjEIGHT ASHjNINE ASHiTHREE DISHkFOUR DISHiIVE DISHjSIX DISHhEVEN DISHkEIGHT DISHkNINE DISH",
    "jFOUR UfIVE UgSIX UeEVEN UhEIGHT UhNINE UgONE GESH2jTWO GESH2iHREE GESH2lFOUR GESH2jIVE GESH2kSIX GESH2",
    "iEVEN GESH2lEIGHT GESH2lNINE GESH2kONE GESHUjTWO GESHUiHREE GESHUlFOUR GESHUjIVE GESHUkTWO SHAR2iHREE SHAR2",
    "a VARIANT(yFOUR SHAR2jIVE SHAR2kSIX SHAR2iEVEN SHAR2lEIGHT SHAR2lNINE SHAR2kONE SHARUjTWO SHARUiHREE SHARU",
    "a VARIANT(yFOUR SHARUjIVE SHARUkSHAR2 TIMES GAL PLUS DISHeMINyONE BURUiTWO BURUhHREE BURUa VARIANT(xFOUR BURU",
    "iIVE BURUjTHREE VARIANT( ESH16c21yFOUR VARIANT( LIMMUa4b AbBzSIX VARIANT( ASH9uEVEN VARIANT( IMIN3b AbB",
    "zEIGHT VARIANT( USSUa3yNINE VARIANT( ILIMMUa3b4b AbaTWO ASH TENUlHREE ASH TENUoFOUR ASH TENUmIVE ASH TENU",
    "nSIX ASH TENUmONE BAN2iTWO BAN2hHREE BAN2kFOUR BAN2a VARIANT(vIVE BAN2a VARIANT(wNIGIDAMINdESHjONE ESHE3",
    "jTWO ESHE3jONE THIRD DISHoTWO THIRDS DISHpFIVE SIXTHS DISHqONE THIRD VARIANT( AyTWO THIRDS VARIANT( A",
    "zONE EIGHTH ASHkQUARTER ASHoLD ASSYRIAN ONE SIXTHfQUARTERxNE QUARTER GURlHALF GURmELAMITE ONE THIRDjTWO THIRDS",
    "kFORTYeIFTYnFOUR U VARIANT(sIVE U VARIANT(tSIX U VARIANT(rEVEN U VARIANT(uEIGHT U VARIANT(uNINE U VARIANT(",
    "12470:bgPUNCTUATION. OLD ASSYRIAN WORD DIVIDERz_ COLONoDIAGONAL COLONfTRICOLONiQUADCOLON",
    "12480:bjSIGN AB TIMES NUN TENUiSHU2mD TIMES ESH2nBAD TIMES DISH TENUrHAR2 TIMES AB2dNIcZAoU OVER BU TIMES NA2",
    "uDA TIMES TAK4lG TIMES KURmIM TIMES IGIdU U Um2 TIMES UDmUG TIMES ANSHEeSHa AT =lDINcUNdERIN2fGAbIaR2 GUNUhSH",
    "eHAbIcIGI GUNUiKASKALfURbSHU2a PLUS KASKALsLAK-020fMa TIMES KURmUH PLUS GISHnMASHdEScIcNIcPIcSHEcI GUNU",
    "rE2 TIMES KURdPAPlRIN2 XgSH2 CROSSING ESH2rZEN SHESHIG TIMES ASHdHIcIGI GUNUiLAaLdMEaSdSUqTIMES SU",
    "nGA2 TIMES BAHAR2gDIM GUNUhUG TIMES IGI GUNUiKASKALqERENeGAaR PLUS DIcNElHA PLUS AjKUSHU2 PLUS KASKALsLAM",
    "a TIMES KURmUHdMUSHeNEa PLUS E2cGIkSHIMeZIZ2mBA ROTATED NINETY DEGREESbaESHTIN TIMES U",
    "oISH TIMES GISH CROSSING GISHbcU2 TIMES IGI GUNUqD PLUS GISH TIMES TAK4yHA TENU GUNU",
    "lI TIMES ASH OVER HI TIMES ASHbeKA TIMES BUcKAcU U UeRlLAGAB TIMES ZU OVER ZUuK-003c21b5c30c50b1c62",
    "c79 OVER LAK-079 GUNUu80b1 OVER LAK-081p92d130c42d210b9c20b5b8c38c65b6d343b7b8c83b4c90d441b9a TIMES GUcIGI",
    "dPAP PLUS LU3dPAP PLUS LU3vU2 PLUS BAt50b7c70c83c90b2b3b5d550d608c17a TIMES ASHdBADdDUN3 GUNU GUNUoKU3dLAcTARcE",
    "cU2bDbRUDAo36c48a TIMES DUBdGAcIGIa GUNUiNIcPAP PLUS PAP PLUS LU3vSHESH PLUS KInUDbRUDAp724c49",
    "gU2 GUNU TIMES ASHoTIMES DISHeHALdPAPa PLUS PAP PLUS LU3vTAK4oMI PLUS ZA7kUSH OVER MUSH TIMES GAcKAK",
    "yNINDA2 TIMES DIM GUNUiGISHdULdHIcKESH2fLAK-050hMASHePAP PLUS PAPmUa PLUS UhRUDAsSAG GUNU TIMES HAnTIMES EN",
    "cSHE AT =lTAK4nHA6 TENUhE OVER SHEiPLUS HUB2eNAM2eSARkU2 PLUS DUG TIMES NImE2 TIMES ANuI TIMES TAK4",
    "nTAK4 PLUS SAGmUM TIMES GAN2 TENUjTHREE DISHuUR2 INVERTEDiTIMES UDkU TIMES DARA3fLAK-668gU3nZA7",
    "cU OVER ZU PLUS SARr5 TIMES THREE DISH TENU;12f90:bnYPRO-MINOAN. CM001b2b4b5b6b7b8b9c10b1b2aBc3b5b7b9c21b3b4b5",
    "b6b7b8b9c30b3b4b5b6b7b8b9c40b1b4b6b7b9c50b1b2b3b4b5b6b8b9c60b1b2b3b4b6b7b8b9c70b1b2b3b4b5aBc6b8b9c80b1b2b3b4b5",
    "b6b7b8b9c90b1b2b4b5b6b7b8b9d100b1b2b3b4b5b7b8b9c10b2b4d301b2;13000:xEGYPTIAN HIEROGLYPH A001b2b3b4b5aAc6aAbBc7",
    "b8b9c10b1b2b3b4aAc5b6b7aAc8b9c20b1b2b3b4b5b6b7b8b9c30b1b2aAc3b4b5b6b7b8b9c40aAc1b2aAc3aAc4b5aAc6b7b8b9c50b1b2b3",
    "b4b5b6b7b8b9c60b1b2b3b4b5b6b7b8b9c70eB001b2b3b4b5aAc6b7b8b9eC001b2aAbBbCc3b4b5b6b7b8b9c10aAc1b2b3b4b5b6b7b8b9",
    "c20b1b2b3b4eD001b2b3b4b5b6b7b8aAc9c10b1b2b3b4b5b6b7b8b9c20b1b2b3b4b5b6b7aAc8b9c30b1aAc2b3b4aAc5b6b7b8b9c40b1b2",
    "b3b4b5b6aAc7b8aAc9c50aAbBbCbDbEbFbGbHbIc1b2aAc3b4aAc5b6b7b8b9c60b1b2b3b4b5b6b7aAbBbCbDbEbFbGbHfE001b2b3b4b5b6b7",
    "b8aAc9aAd10b1b2b3b4b5b6aAc7aAc8b9c20aAc1b2b3b4b5b6b7b8aAc9c30b1b2b3b4aAc6b7b8eF001aAc2b3b4b5b6b7b8b9c10b1b2b3aA",
    "c4b5b6b7b8b9c20b1aAc2b3b4b5b6b7b8b9c30b1aAc2b3b4b5b6b7aAc8aAc9c40b1b2b3b4b5aAc6aAc7aAc8b9c50b1aAbBbCc2b3eG001b2",
    "b3b4b5b6aAc7aAbBc8b9c10b1aAc2b3b4b5b6b7b8b9c20aAc1b2b3b4b5b6aAc7b8b9c30b1b2b3b4b5b6aAc7aAc8b9c40b1b2b3aAc4b5aA",
    "c6b7b8b9c50b1b2b3b4eH001b2b3b4b5b6aAc7b8eI001b2b3b4b5aAc6b7b8b9aAd10aAc1aAc2b3b4b5eK001b2b3b4b5b6b7b8eL001b2aA",
    "c3b4b5b6aAc7b8eM001aAbBc2b3aAc4b5b6b7b8b9c10aAc1b2aAbBbCbDbEbFbGbHc3b4b5aAc6aAc7aAc8b9c20b1b2aAc3b4aAc5b6b7b8aA",
    "c9c30b1aAc2b3aAbBc4b5b6b7b8b9c40aAc1b2b3b4eN001b2b3b4b5b6b7b8b9c10b1b2b3b4b5b6b7b8aAbBc9c20b1b2b3b4b5aAc6b7b8b9",
    "c30b1b2b3aAc4aAc5aAc6b7aAc8b9c40b1b2dL001b2b3b4b5aAc6b7b8b9c10b1b2b3b4b5b6b7aAc8b9c20eU001b2b3b4b5b6b7b8b9c10aA",
    "c1aAc2b3b4b5b6b7b8aAc9c20b1b2aAgO001aAc2b3b4b5aAc6aAbBbCbDbEbFc7b8b9c10aAbBbCc1b2b3b4b5b6b7b8b9aAd20aAc1b2b3b4",
    "aAc5aAc6b7b8b9aAd30aAc1b2b3aAc4b5b6aAbBbCbDc7b8b9c40b1b2b3b4b5b6b7b8b9c50aAbBc1eP001aAc2b3aAc4b5b6b7b8b9c10b1",
    "eQ001b2b3b4b5b6b7eR001b2aAc3aAbBc4b5b6b7b8b9c10aAc1b2b3b4b5b6aAc7b8b9c20b1b2b3b4b5b6b7b8b9eS001b2aAc3b4b5b6aAc7",
    "b8b9c10b1b2b3b4aAbBc5b6b7aAc8b9c20b1b2b3b4b5b6aAbBc7b8b9c30b1b2b3b4b5aAc6b7b8b9c40b1b2b3b4b5b6eT001b2b3aAc4b5b6",
    "b7aAc8aAc9aAd10b1aAc2b3b4b5b6aAc7b8b9c20b1b2b3b4b5b6b7b8b9c30b1b2aAc3aAc4b5b6eU001b2b3b4b5b6aAbBc7b8b9c10b1b2b3",
    "b4b5b6b7b8b9c20b1b2b3aAc4b5b6b7b8b9aAd30b1b2aAc3b4b5b6b7b8b9c40b1b2eV001aAbBbCbDbEbFbGbHbIc2aAc3b4b5b6b7aAbBc8",
    "b9c10b1aAbBbCc2aAbBc3b4b5b6b7b8b9c20aAbBbCbDbEbFbGbHbIbJbKbLc1b2b3aAc4b5b6b7b8aAc9aAd30aAc1aAc2b3aAc4b5b6b7aAc8",
    "b9c40aAfW001b2b3aAc4b5b6b7b8b9aAd10aAc1b2b3b4aAc5b6b7aAc8aAc9c20b1b2b3b4aAc5eX001b2b3b4aAbBc5b6aAc7b8aAfY001aA",
    "c2b3b4b5b6b7b8eZ001b2aAbBbCbDc3aAbBc4aAc5aAc6b7b8b9c10b1b2b3b4b5aAbBbCbDbEbFbGbHbIc6aAbBbCbDbEbFbGbHfAA001b2b3",
    "b4b5b6b7aAbBc8b9c10b1b2b3b4b5b6b7b8b9c20b1b2b3b4b5b6b7b8b9c30b1b2;13430:f_ JOINERpHORIZONTAL JOINER",
    "rINSERT AT TOP STARTjBOTTOM STARTmTOP ENDhBOTTOM ENDuOVERLAY MIDDLEoBEGIN SEGMENTnEND SEGMENT",
    "14400:bfANATOLIAN HIEROGLYPH A001b2b3b4b5b6b7b8b9c10aAc1b2b3b4b5b6b7b8b9c20b1b2b3b4b5b6aAc7b8b9c30b1b2b3b4b5b6",
    "b7b8b9aAd40b1aAc2b3b4b5aAc6aAbBc7b8b9c50b1b2b3b4b5b6b7b8b9c60b1b2b3b4b5b6aAbBbCc7b8b9c70b1b2b3b4b5b6b7b8b9c80b1",
    "b2b3b4b5b6b7b8b9c90b1b2b3b4b5b6b7aAc8aAc9d100aAc1aAc2aAc3b4aAbBbCc5aAbBc6b7aAbBbCc8b9c10aAbBc1b2b3b4b5aAc6b7b8",
    "b9c20b1b2b3b4b5aAc6b7b8b9c30b1b2b3b4b5aAc6b7b8b9c40b1b2b3b4b5b6b7b8b9c50b1b2b3b4b5b6b7b8b9c60b1b2b3b4b5b6b7b8b9",
    "c70b1b2b3b4b5b6b7b8b9c80b1b2b3b4b5b6b7b8b9c90b1b2b3b4b5b6b7b8b9d200b1b2aAbBc3b4b5b6b7aAc8b9aAd10b1b2b3b4b5aAc6",
    "aAc7b8b9c20b1b2b3b4b5b6b7aAc8b9c30b1b2b3b4b5b6b7b8b9c40b1b2b3b4b5b6b7b8b9c50b1b2b3b4b5b6b7b8b9c60b1b2b3b4b5b6b7",
    "aAc8b9c70b1b2b3b4b5b6b7b8b9c80b1b2b3b4b5b6b7b8b9aAd90b1b2b3b4aAc5b6b7b8b9aAe300b1b2b3b4b5b6b7b8b9aAd10b1b2b3b4",
    "b5b6b7b8b9c20b1b2b3b4b5b6b7b8b9aAd30b1b2AbBbCc3b4b5b6aAbBbCc7b8b9c40b1b2b3b4b5b6b7b8b9c50b1b2b3b4b5b6b7b8b9aA",
    "d60b1b2b3b4aAc5b6b7b8aAc9c70b1aAc2b3b4b5b6b7b8b9c80b1aAc2b3 RA OR RIjAc4b5b6aAc7b8b9c90b1b2b3 EIGHTh4b5b6b7b8b9",
    "d400b1b2b3b4b5b6b7b8b9c10 BEGIN LOGOGRAM|uA END LOGOGRAM|u1b2b3b4b5b6b7b8b9c20b1b2b3b4b5b6b7b8b9c30b1b2b3b4b5b6",
    "b7b8b9c40b1b2b3b4b5b6b7b8b9c50aAc1b2b3b4b5b6b7aAc8b9c60b1b2b3b4b5b6b7b8b9c70b1b2b3b4b5b6b7b8b9c80b1b2b3b4b5b6b7",
    "b8b9c90b1b2b3b4b5b6b7d501b2b3b4b5b6b7b8b9c10b1b2b3b4b5b6b7b8b9c20b1b2b3b4b5b6b7b8b9c30",
    "16800:zBAMUM!PHASE-A NGKUE MFONkGBIEE FONjPON MFON PIPAEMGBIEEfBArNAA MFONiSHUENSHUETkTITA MFONjNZA MFON",
    "iSHINDA PA NJInPON PA NJI PIPAEMGBIEEfBAtMAEMBGBIEEkTU MAEMBAjNGANGUgMAEMVEUXgNSUAEgVEUAENGAMkSEUNYAMhNTOQPEN",
    "hKEUKEUTNDAkNKINDIgSUUdNGKUENZEUMkLAPAQeET KUThNTAP MFAAjMAEKEUPhPASHAEgGHEUAERAEjPAMSHAEhMON NGGEUAET",
    "mNZUN MEUTjU YUQ NAEjGHEUAEGHEUAEmNTAP NTAAjSISAeMGBASAfEUNJOMNDEUQlOOMPUQhKAFAePA LEERAEWAlNDA LEERAEWAmPET",
    "dMAEMKPENiNIKAePUPdTUAEPfLUAEPfSONJAMgTEUTEUWENjMAENYIgKETdNDAANGGEUAETmKUOQeMOOMEUThSHUMeLOMMAEgFIRIeROMdKPOQ",
    "eSOQdMAP PIEETjSHIRAEgNTAPeSHOQ NSHUT YUMoNYIT MONGKEUAEQpPAARAEgNKAARAEhUNKNOWNhNGGENfMAESIfNJAMeMBANYIgNYET",
    "eTEUAENgSOTdPAAMeNSHIEEgMAEMeNYIdKAQdNSHAeVEEdLUcNENcAQdMBAQgB NSHUETgTU MAEMGBIEEmSIEEdET TUgLOM NTEUM",
    "jMBA MAELEEkKIEEMfYEURAEgMBAARAEhKAMdPEESHIgYAFU LEERAEWAnLAM NSHUT NYAMoNTIEE SHEUOQlDU NJAAiGHEUGHEUAEMlPIT",
    "dTU NSIEEiSHET NJAQgUAEQTUjMFON TEUAEQkBIT MBAAKETmNYI NTEUMjKEUPUQgGHEUGHENiKEUYEUXhLAANAEgPARUMfVEUM",
    "eNGKINDI MVOPkGEU MBUjWUAETfSAKEUAEhTAAMeMEUQeNGGUOQa LARGEmMFIYAQgSUEdMBEURIfONTIEENiNYAEMAEhPUNGAAM",
    "hMEUT NGGEETlFEUXeMBUOQfFEEdKEUAEMgMA NJEUAENAgUQAiLETdNGGAAMfSENeMAcKIQdNGOMgC NGKUE MAEMBAlZAdYUMdWANGKUOQ",
    "iNGGENeDEUAEREEiGKAQfGHARAEgMBEEKEETiGBAYIfNYIR MKPARAQ MEUNqTU MBITiMBEUMfPIRIEENhNDOMBUgMBAA CABBAGE-TREE",
    "rKEUSHEUAEPkGHAPeKEUKAQgYU MUOMAEjNZEUMfMBUEeNSEUAENhMBITeYEUQeKPARAQfAAdSEUXeNDIDAfTAASHAEhNJUEQfTITA YUE",
    "iSUAETfNGGUAEN NYAMmVEUXeNANSANAQiMA KEUAERIkNTAAdGGUONgLAPdMBIRIEENhGBASAQhNTEUNGBAiTEUTEUXhNGGUMfFUEdNDEUTeSA",
    "bHAQfBUNGeVEUAEPENiMBERAEgRUcNJAEMfLAMdTITUAEPhNSUOT NGOMjJEEEEgKETdNGGUeMAESIeBUAEMgLUcKUTdNJAMdGOMeWUP",
    "dNGGUEETgSOMdTENeKUOP NKAARAEmNSUNdDAMeMA NSIEEiYAAdNDAPeSHUEQeETFONgMBIcAEMBAfBANYIgKEUSEUXhMBEUXfKEUM",
    "eMBAA PICKETlYUWOQfNJEUXfMIEEdUAEeSHIQeKEN LAWdFATIGUElNGAQdAQdLIQdPINcENdTETfD MBUOeWAPdNJIdMFONeNJIEEfLIEE",
    "eNJEUTeSHEEeGGAAMAEhYAMeWUAENfNGKUNfSHEEeNGKAPfKEUAETMEUNkTEUTeSHEUAEgNJAPeSUEdKETdYAEMMAEhKUOMeSAPdMFEUTfNDEUX",
    "fMALEERIgEUTeSEUAEQgYENdNJEUAEMhKEUOT MBUAElNGKEURIhTUcGHAAeNGKYEEgFEUFEUAETjNDEEeMGBOFUMhLEUAEPgNDONeMONI",
    "dGBEUNgPUUTeMGBIEEfFOdLUMdNSIEEPgMBAAeKWAETfNYETeTEUAENgSOTdYUWOQfKEUMeRAEMeTEEEEfNGKEUAEQiMFEUAEgNSIEETgKEUP",
    "ePIPcEUTAEgNYUEeLETdNGGAAMgMFIEEfNGGWAENhYUOMePAPdYUOPeNDAMdTEUMfSUAEeKUNdNGGEUXeKIEEgTUOTeMEUNeKUQdNSUMeTEUN",
    "eMAENJEThNGGAPfLEUMeNGGUOMfSHUTeJUEQfGHEUAEgKUcREN OLDhTAEcOQdNYIdRIIdLEEEEfMEEEEfMbSUUdMUcSHIIcEUXfKYEEeNUcSHU",
    "dNTEEePEEdNIcSHOQePUQdMVOPeLOQdREN MUCHiTIcNTUUeMBAA SEVENkSAQdFAAfE NDAPeTOONeMBEUMfLAPdVOMdLOONePAAdSOMdRAQ",
    "dNSHUOPfDUNePUAEeTAMdNGKAeKPEUXfWUOdSEEdNGGEUAETiPAAMeTOOdKUOPeLOMdNSHIEEfGOPeMAEMeNGKEUXeOQdSHUEfRIMGBAgNJEUX",
    "fPEEMeSAAdNGGURAEhMGBAeGHEUXfNGKEUAEMhJAEMLIhMAPdLOOTeNGGEEEEgDIQeTAEN NTEUMkSETdPUMdNDAA SOFTNESS",
    "mGGUAESHAE NYAMpYIEEeGHEUNfTUAEeYEUAEfPOcTUMAEfKEUAEfSUAENfTEUAEQgVEUAEfWEUXeLAAMePUcTAAQeGHAAMAEhNGEUREUT",
    "iSHEUAEQhMGBENeBEEeNZAQdKOMeGBETeTUMdKUETeYAPdNYI CLEAVERlYITdMFEUQfNDIAQfPIEEQfYUEQeLEUAEMgFUEdGBEUXfNGKUPfKET",
    "dMAEdNGKAAMIhGHETeFAcNTUMePEUTeYEUMeNGGEUAEgYI BETWEENkZUQePOONeMIEEeFUETeNAEdMUAEeGHEUAEgFU IeMVIdPUAQeNGKUM",
    "fKUTdPIETeNTAPeYEUAETgNGGUPfPA PEOPLEjFU CALLgOMdNJEEeAbTOQdObIbLAQdPA PLURALjTAAbQdNDAA MY HOUSEnSHIQeYEUX",
    "eNGUAEfYUAENeOQ SWIMMINGiCOVERiUQbNdKEUXePEUXeNJEE EPOCHkPUEdWUEdFEEdVEEdLUcMIcREUXdAEdNGUAETeAdSHOaQeFU REMEDY",
    "jNAcPIcLOQdKOcMENcAaQdTEUdKIcMONdTENdFAQdGHOMgF KAcUbKUcEEcREEdTAEdNYIdLAcRIIbEEeMEEEEfTAAdNDAAdJAEMfMbSUUcHII",
    "dIbEUXeKYEEdETdNUAEdUbJUAEfYOQdSHUdYAcNSHAePEUXeNTEEeWUEdPEEdRUcNIcREUXeKENdNGKWAENfGAeSHOdPUAEeFOMdWAcLIbOQdKO",
    "cMBENeRENdMAbObBAAeTETdKPAdSAMBAfVUEQ;16a40:zMRO!TAcNGIdYOcMIMdBAcDAcAbPHIdKHAIeHAOdDAIdCHUdKEAAEfOLcMAEMeNIN",
    "dPAcOOcObROcSHIdTHEAeEAcWAcEbKOcLANcAcHAIdRIcTEK;16a60:kDIGIT ZEROeONEdTWOcHREEfFOURdIVEeSIXcEVENfEIGHTfNINE",
    "16a6e:jANDAeOUBLE DANDAqTANGSA!OZbCbQbXcAZbCbQbXcVZbCbQbXcEZbCbQbXcIZbCbQbXcUZbCbQbXcAWZbCbQbXdUIZbCbQbXd^ NG",
    "iLONG UEXiSHORT UEZdAWXjUECbZbQbXcIUZbCbQbXeMZbCbQbXcKAbHAdGAcNGAdSAcYAcWAcPAcNYAdPHAdBAcMAcNAcHAcLAcHTAdTAcDA",
    "cRAcNHAdSHAdCAcTSAdGHAdHTTAeTHAdXAcFAcDHAdCHAdZA;16ac0:jDIGIT ZEROeONEdTWOcHREEfFOURdIVEeSIXcEVENfEIGHTfNINE",
    "16ad0:rBASSA VAH!ENNIeKAcSEcFAcMBEdYIEdGAHdDHIIeKPAHeJOcHWAHeWAcZOcGBUdDOcCEcUWUdTOcBAcVUcYEINePAcWADDAfAbOaOcU",
    "bEEcEbI;16af0:iCOMBINING HIGH TONEjLOW TONEiMID TONEiLOW-MID TONEmHIGH-LOW TONExFULL STOP",
    "16b00:tPAHAWH HMONG VOWEL KEEBbVdIBbVcAUBbVdUBbVcEBbVcAIBbVdOOBbVdAWBbVdUABbVdOBbVcIABbVdABbVcWBbVcAABbV",
    "kCONSONANT VAUdNTSAUfLAUdHAUdNLAUeRAUdNKAUeQHAUeYAUdHLAUeMAUdCHAUeNCHAUfHNAUePLHAUfNTHAUeAUdAUcXAUdCAU",
    "nMARK CIM TUBdSOcKEScHAVeSUAMeHOMdTAUMnSIGN VOS THOMdSHAB CEEBoCIM CHEEMjVOS THIABfFEEMiXYEEM NTXIVfRHOdTOV",
    "dFAIBkVOS SEEViMEEJ SUABjVOS NRUAiIB YAMgXAUSeCIM TSOV ROG;16b50:rDIGIT ZEROeONEdTWOcHREEfFOURdIVEeSIXcEVEN",
    "fEIGHTfNINE;16b5b:kNUMBER TENSeHUNDREDSiTEN THOUSANDSnMILLIONSiHUNDRED MILLIONSqTEN BILLIONSlRILLIONS",
    "16b63:qSIGN VOS LUBhXYOOeHLIdTHIRD-STAGE HLIpZWJ THAJiHNUBeNQIGeXIABeNTUJeAVcTXHEEJ CEEVlMEEJ TSEEBkTAUdLOSdMUS",
    "dCIM HAIS LUS NTOG NTOGsCUAM TSHOOJlTXWVa CHWVjPUB DAWBiNRES TOS;16b7d:rCLAN. TSHEEJgYEEGeLIScAUJeXYOOJfKOO",
    "dHAWJeMUASeTHOJdSABePHABeKHABeHAMdVAJdFAJdYAJdTSWBeKWMdVWJ;16e40:baMEDEFAIDRIN $!MbSbVbWbATIUeZbKPcPbTbGbFbIbK",
    "bAbJbEbBbCbUbYUcLbQbHPcNYcXbDbOEcNbRbObAIcYq%!MbSbVbWbATIUeZbKPcPbTbGbFbIbKbAbJbEbBbCbUbYUcLbQbHPcNYcXbDbOEcNbR",
    "bObAIcYoDIGIT ZEROeONEdTWOcHREEfFOURdIVEeSIXcEVENfEIGHTfNINEkNUMBER TENdELEVENgTWELVEfHIRTEENiFOURTEENhIFTEEN",
    "hSIXTEENgEVENTEENjEIGHTEENiNINETEENpDIGIT ONE ALTERNATE(sTWO ALTERNATE(rHREE ALTERNATE(baCOMMAfFULL STOP",
    "jSYMBOL AIVAlEXCLAMATION OH;16f00:zIAO!PAcBAcYI PAfPLAdMAbHAdARCHAIC MAkFAcVAbFAdTAcDAcYI TTAcAfTTAdDDAdNAbHA",
    "dYI NNAgARCHAIC NAkNNAbHAeLAbYAcHAbYAeTLHAeDLHAeTLHYAfDLHYAfKAcGAcYI KAfQAbGAdNGAbHAeARCHAIC NGAlHAcXAcGHAbHA",
    "eTSSAeDZZAeNYAbHAeTSHAeDZHAeYI TSHAeDZHAhREFORMED TSHAnSHAcSAdZHAcSHAeTSAdDZAdYI TSAgSAcZAbSAcZAbSAeARCHAIC ZZA",
    "lZZYAcSYAfWAcAHcHHAdBRIdSYIdDZYIeTEbSEdRTE;16f4f:kSIGN CONSONANT MODIFIER BARbbLETTER NASALIZATION",
    "tSIGN ASPIRATIONkREFORMED VOICINGhASPIRATIONyVOWEL. AaAbHHcNaGdOaOcWOcWbEaNaGdOEYdIaAaNaGdObEbIbUbNGdUaAaNaGdU",
    "bEIcNGdYaIcAEaEdERRdROUNDED ERRlERcROUNDED ERkAIcEIcAUcOUcNaGcUOGdYUIdOGbERdVWcIGcEAcIONGeUI;16f8f:nTONE )",
    "fTOP )jABOVEfBELOWkLETTER TONE-2b3b4b5b6b7b8gREFORMED TONE-1b2b4b5b6b8;16fe0:bbTANGUT ITERATION|",
    "16fe2:vOLD CHINESE HOOK|jITERATION|;18800:baTANGUT COMPONENT-001b2b3b4b5b6b7b8b9c10b1b2b3b4b5b6b7b8b9c20b1b2b3",
    "b4b5b6b7b8b9c30b1b2b3b4b5b6b7b8b9c40b1b2b3b4b5b6b7b8b9c50b1b2b3b4b5b6b7b8b9c60b1b2b3b4b5b6b7b8b9c70b1b2b3b4b5b6",
    "b7b8b9c80b1b2b3b4b5b6b7b8b9c90b1b2b3b4b5b6b7b8b9d100b1b2b3b4b5b6b7b8b9c10b1b2b3b4b5b6b7b8b9c20b1b2b3b4b5b6b7b8",
    "b9c30b1b2b3b4b5b6b7b8b9c40b1b2b3b4b5b6b7b8b9c50b1b2b3b4b5b6b7b8b9c60b1b2b3b4b5b6b7b8b9c70b1b2b3b4b5b6b7b8b9c80",
    "b1b2b3b4b5b6b7b8b9c90b1b2b3b4b5b6b7b8b9d200b1b2b3b4b5b6b7b8b9c10b1b2b3b4b5b6b7b8b9c20b1b2b3b4b5b6b7b8b9c30b1b2",
    "b3b4b5b6b7b8b9c40b1b2b3b4b5b6b7b8b9c50b1b2b3b4b5b6b7b8b9c60b1b2b3b4b5b6b7b8b9c70b1b2b3b4b5b6b7b8b9c80b1b2b3b4b5",
    "b6b7b8b9c90b1b2b3b4b5b6b7b8b9d300b1b2b3b4b5b6b7b8b9c10b1b2b3b4b5b6b7b8b9c20b1b2b3b4b5b6b7b8b9c30b1b2b3b4b5b6b7",
    "b8b9c40b1b2b3b4b5b6b7b8b9c50b1b2b3b4b5b6b7b8b9c60b1b2b3b4b5b6b7b8b9c70b1b2b3b4b5b6b7b8b9c80b1b2b3b4b5b6b7b8b9",
    "c90b1b2b3b4b5b6b7b8b9d400b1b2b3b4b5b6b7b8b9c10b1b2b3b4b5b6b7b8b9c20b1b2b3b4b5b6b7b8b9c30b1b2b3b4b5b6b7b8b9c40b1",
    "b2b3b4b5b6b7b8b9c50b1b2b3b4b5b6b7b8b9c60b1b2b3b4b5b6b7b8b9c70b1b2b3b4b5b6b7b8b9c80b1b2b3b4b5b6b7b8b9c90b1b2b3b4",
    "b5b6b7b8b9d500b1b2b3b4b5b6b7b8b9c10b1b2b3b4b5b6b7b8b9c20b1b2b3b4b5b6b7b8b9c30b1b2b3b4b5b6b7b8b9c40b1b2b3b4b5b6",
    "b7b8b9c50b1b2b3b4b5b6b7b8b9c60b1b2b3b4b5b6b7b8b9c70b1b2b3b4b5b6b7b8b9c80b1b2b3b4b5b6b7b8b9c90b1b2b3b4b5b6b7b8b9",
    "d600b1b2b3b4b5b6b7b8b9c10b1b2b3b4b5b6b7b8b9c20b1b2b3b4b5b6b7b8b9c30b1b2b3b4b5b6b7b8b9c40b1b2b3b4b5b6b7b8b9c50b1",
    "b2b3b4b5b6b7b8b9c60b1b2b3b4b5b6b7b8b9c70b1b2b3b4b5b6b7b8b9c80b1b2b3b4b5b6b7b8b9c90b1b2b3b4b5b6b7b8b9d700b1b2b3",
    "b4b5b6b7b8b9c10b1b2b3b4b5b6b7b8b9c20b1b2b3b4b5b6b7b8b9c30b1b2b3b4b5b6b7b8b9c40b1b2b3b4b5b6b7b8b9c50b1b2b3b4b5b6",
    "b7b8b9c60b1b2b3b4b5b6b7b8;1aff0:uKATAKANA!MINNAN TONE-2b3b4b5;1aff5:b7b8gNASALIZED TONE-1b2b3b4b5;1affd:b7b8",
    "1b002:bnHENTAIGANA!A-1b2b3bWOeI-1b2b3b4dU-1b2b3b4b5dE-2b3b4b5b6dO-1b2b3dKA-1b2b3b4b5b6b7b8b9b10b1cKEeI-1b2b3b4",
    "b5b6b7b8dU-1b2b3b4b5b6b7dE-1b2b3b4b5b6dO-1b2b3bKIfSA-1b2b3b4b5b6b7b8dI-1b2b3b4b5b6dU-1b2b3b4b5b6b7b8dE-1b2b3b4",
    "b5dO-1b2b3b4b5b6b7eTA-1b2b3b4dI-1b2b3b4b5b6b7dU-1b2b3b4bTOeE-1b2b3b4b5b6b7b8b9dO-1b2b3b4b5b6bRAfNA-1b2b3b4b5b6",
    "b7b8b9dI-1b2b3b4b5b6b7bTEeU-1b2b3dE-1b2b3b4b5b6bKOeO-1b2b3b4b5eHA-1b2b3b4b5b6b7b8b9b10b1eI-1b2b3b4b5b6b7dU-1b2",
    "b3dE-1b2b3b4b5b6b7dO-1b2b3b4b5b6b7b8eMA-1b2b3b4b5b6b7dI-1b2b3b4b5b6b7dU-1b2b3b4dE-1b2bMAeO-1b2b3b4b5b6eYA-1b2b3",
    "b4b5bYOeU-1b2b3b4dO-1b2b3b4b5b6eRA-1b2b3b4dI-1b2b3b4b5b6b7dU-1b2b3b4b5b6dE-1b2b3b4dO-1b2b3b4b5b6eWA-1b2b3b4b5",
    "dI-1b2b3b4b5dE-1b2b3b4dO-1b2b3b4b5b6b7eN-MU-MO-1b2;1bc00:bbDUPLOYAN!HbXbPbTbFbKbLbBbDbVbGbRbP NdD SdF NdK MdR S",
    "dTHcSLOAN DHiDHcKKcSLOAN JhHLcLHcRHcMbNbJbSbM NdN MdJ MdS JdM#DOTkN#DOTkJ#DOTaS INSIDE*ABOVEbcS#DOTa?qM SdN S",
    "dJ SdS SdM N SfN M SfJ M SfS J SfJ S#DOTkNa SfS Ta RdPa RfT SbR SfWaHb RdS NbMdK R SfG R SfS Ka RfAbSLOAN OWiOA",
    "cObAOUdIbEbIEcSHORT IhUIcEEcSLOAN EHiROMANIAN IkSLOAN EEiLONG IgYEcUbEUcXWcU NdLONG UgROMANIAN UkUHcSLOAN UhOOH",
    "cWbUcWAbObIbEIcOWdNASAL UbObIbAhPERNIN ANbMjSLOAN ENcANcONiVOCALIC M;1bc70:qAFFIX = HORIZONTAL SECANT",
    "wMID HORIZONTAL SECANTv) HORIZONTAL SECANTxLOW _ SECANTtMID _ SECANTtHIGH _ SECANTuATTACHED SECANT",
    "g=-TO-) SECANTuTANGENTfILeE HOOKgI HOOKgTANGENT HOOK;1bc80:vHIGH ACUTEfTIGHT ACUTElGRAVEfLONG GRAVEkDOTdCIRCLE",
    "gLINEeWAVEe_;1bc90:nLOW ACUTEfTIGHT ACUTElGRAVEfLONG GRAVEkDOTdCIRCLEgLINEeWAVEe_iARROW;1bc9c:pSIGN O#CROSS",
    "rTHICK!SELECTORv>|lPUNCTUATION CHINOOK FULL STOP;1cf00:bmZNAMENNY COMBINING| GORAZDO NIZKO S KRYZHEM ON =",
    "bfNIZKO S KRYZHEM ON =xTSATA ON =nGORAZDO NIZKO ON =vNIZKO ON =nSREDNE ON =oMALO POVYSHE ON =uPOVYSHE ON =",
    "pVYSOKO ON =oMALO POVYSHE S KHOKHLOM ON =bfPOVYSHE S KHOKHLOM ON =baVYSOKO S KHOKHLOM ON =",
    "zGORAZDO NIZKO S KRYZHEM ON )bgNIZKO S KRYZHEM ON )yTSATA ON )oGORAZDO NIZKO ON )wNIZKO ON )oSREDNE ON )",
    "pMALO POVYSHE ON )vPOVYSHE ON )qVYSOKO ON )pMALO POVYSHE S KHOKHLOM ON )bgPOVYSHE S KHOKHLOM ON )",
    "bbVYSOKO S KHOKHLOM ON )baTSATA S KRYZHEMpMALO POVYSHE S KRYZHEMwSTRANNO MALO POVYSHEuPOVYSHE S KRYZHEMiTRANNO",
    "pVYSOKO S KRYZHEMqMALO POVYSHE STRANNOuGORAZDO VYSOKOoZELOeONcRAVNOfTIKHAYAhBORZAYAhUDARKAgPODVERTKAjLOMKA",
    "fKUPNAYAgACHKAgZEVOKfSKOBAfRAZSEKAhKRYZH ON =;1cf30:sTONAL RANGE| MRACHNOhSVETLOgTRESVETLObaMARK ZADERZHKA",
    "jDEMESTVENNY ZADERZHKAvOTSECHKAiPODCHASHIEa#_ STROKEbfCHASHKAa POLNAYApOBLACHKOiSOROCHYA NOZHKApTOCHKA",
    "gDVOETOCHIEpATTACHING _ OMETxMARK CURVED OMETlKRYZHkLOWER TONAL RANGE INDICATORblPRIZNAK MODIFIER LEVEL-2b3",
    "hDIRECTION FLIPoKRYZHfROG;1cf50:uNEUME KRYUKa TIKHYlPARAKLITiDVA V CHELNUmKLYUCHgZANOZHEKiSTOPITSAa S OCHKOM",
    "rPEREVODKAa NEPOSTOYANNAYAySTOPITSA#SOROCHYA NOZHKAbdCHELYUSTKAkPALKAfZAPYATAYAjGOLUBCHIK BORZYfTIKHYfMRACHNY",
    "hSVETLYgTRESVETLYtVRAKHIYA PROSTAYAiMRACHNAYAjSVETLAYAiTRESVETLAYAlKLYUCHEVAYA PROSTAYAiMRACHNAYAjSVETLAYA",
    "iTRESVETLAYAbg> ZAPYATAYAqREVERSED CHELYUSTKAtDERBITSAiKHAMILOhCHASHKAhPODCHASHIEkSKAMEYTSA MRACHNAYAjSVETLAYA",
    "iTRESVETLAYAkIKHAYArDEMESTVENNY KLYUCHsSKAMEYTSA KLYUCHEVAYA SVETLAYAnNEPOSTOYANNAYAoVAYA TIKHAYA",
    "tDVOECHELNAYA PROSTAYAiSVETLAYAiNEPOSTOYANNAYAoKLYUCHEVAYAbhLOZHITIEa S ZAPYATOYkZAKRYTOEiS KRYZHEMtKRYZHfROG",
    "dFITAeKOBYLAgZMEYTSAhSTATYAa S ZAPYATOYiKRYZHEMhZAPYATOY I KRYZHEMsKRYZHEM I ZAPYATOYuZAKRYTAYAa S ZAPYATOY",
    "uS ROGOMfDVUMYA ZAPYATYMIqZAPYATOY I PODCHASHIEMbfPOLKULIZMYkSTATYA NEPOSTOYANNAYAtRELA PROSTAYAiMRACHNOTIKHAYA",
    "oKRYZHEVAYAkPOLUPOVODNAYAlVODNAYAjNEPOSTOYANNAYAoKLYUCHEPOVODNAYAjNEPOSTOYANNAYAvTIKHAYA PUTNAYApDVOECHELNAYA",
    "dOKRYZHEVAYAkPOVODNAYAkAYA KLYUCHEVAYApOPOVODNAYA KLYUCHEVAYAbfGROMNAYA#SINGLE ZAPYATAYA",
    "baOPOVODNAYA#SINGLE ZAPYATAYAbgNAYAeOPOVODNAYAa#> ZAPYATAYAbfKRYZHEVAYAa POVODNAYAbgMECHIKa POVODNYhKLYUCHEVOY",
    "dPOVODNYhNEPOSTOYANNYbaSTRELA TRYASOGLASNAYAiPOVODNAYAjSTRELNAYAwOSOKAa SVETLAYAiTRESVETLAYA",
    "lKRYUKOVAYA SVETLAYAsLYUCHEVAYA SVETLAYAiNEPOSTOYANNAYAbgSTRELA KRYUKOVAYAa POVODNAYAjGROMNAYA#SINGLE ZAPYATAYA",
    "baOPOVODNAYA#SINGLE ZAPYATAYAbgNAYAeOPOVODNAYAa#> ZAPYATAYAbfKRYZHEVAYAa POVODNAYAzTRYASKAzKUFISMAhOBLAKOgDUDA",
    "eNEMKAfPAUK;1f5b3:tOLD PERSONAL COMPUTER;1f5dd:rKEY"]

end Vetted.Text.CharacterName
