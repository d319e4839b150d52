namespace Vetted.Text.CharacterName

def alphabets : List String :=
  ["20:aSPACEfEXCLAMATION|qQUOTATION|oNUMBER.lDOLLAR.lPERCENT.mAMPERSANDiPOSTROPHEk= PARENTHESISq) PARENTHESIS",
    "rASTERISKiPLUS.jCOMMAfHYPHEN-MINUSmFULL STOPjSOLIDUShDIGIT ZEROeONEdTWOcHREEfFOURdIVEeSIXcEVENfEIGHTfNINEkCOLON",
    "fSEMICOLONjLESS-THAN.oEQUALS.lGREATER-THAN.rQUESTION|nCOMMERCIAL ATnLATIN $!AbBbCbDbEbFbGbHbIbJbKbLbMbNbObPbQbR",
    "bSbTbUbVbWbXbYbZvEFT SQUARE BRACKETtREVERSE SOLIDUSoIGHT SQUARE BRACKETuCIRCUMFLEX ACCENTrLOW LINEiGRAVE ACCENT",
    "mLATIN %!AbBbCbDbEbFbGbHbIbJbKbLbMbNbObPbQbRbSbTbUbVbWbXbYbZtEFT CURLY BRACKETs_ LINEn) CURLY BRACKETtTILDE",
    "a0:fNO-BREAK SPACEoINVERTED EXCLAMATION|zCENT.jPOUND.kCURRENCY.nYEN.iBROKEN BARkSECTION.mDIAERESISjCOPY).",
    "oFEMININE ORDINAL INDICATORba=-POINTING > ANGLE QUOTATION|bpNOT.iSOFT HYPHENlREGISTERED.pMACRONgDEGREE.",
    "lPLUS-MINUS.pSUPERSCRIPT TWOcHREErACUTE ACCENTmMICRO.kPILCROW.mMIDDLE DOTkCEDILLAhSUPERSCRIPT ONE",
    "pMASCULINE ORDINAL INDICATORbb)-POINTING > ANGLE QUOTATION|bqVULGAR FRACTION ONE QUARTERhHALFiTHREE QUARTERS",
    "beINVERTED QUESTION|wLATIN $!A#GRAVEfACUTEfCIRCUMFLEXkTILDEfDIAERESISjRING+qEcC#CEDILLAoE#GRAVEfACUTE",
    "fCIRCUMFLEXkDIAERESISqI#GRAVEfACUTEfCIRCUMFLEXkDIAERESISqETHdN#TILDEmO#GRAVEfACUTEfCIRCUMFLEXkTILDEfDIAERESIS",
    "blMULTIPLICATION.tLATIN $!O#STROKEnU#GRAVEfACUTEfCIRCUMFLEXkDIAERESISqY#ACUTEmTHORNu%!SHARP ShA#GRAVEfACUTE",
    "fCIRCUMFLEXkTILDEfDIAERESISjRING+qEcC#CEDILLAoE#GRAVEfACUTEfCIRCUMFLEXkDIAERESISqI#GRAVEfACUTEfCIRCUMFLEX",
    "kDIAERESISqETHdN#TILDEmO#GRAVEfACUTEfCIRCUMFLEXkTILDEfDIAERESISbjDIVISION.nLATIN %!O#STROKEnU#GRAVEfACUTE",
    "fCIRCUMFLEXkDIAERESISqY#ACUTEmTHORNfY#DIAERESISbd$!A#MACRONbc%!A#MACRONba$!A#BREVEbb%!A#BREVEz$!A#OGONEK",
    "bc%!A#OGONEKba$!C#ACUTEbb%!C#ACUTEz$!C#CIRCUMFLEXbg%!C#CIRCUMFLEXbe$!C#DOT+bf%!C#DOT+bd$!C#CARONbb%!C#CARON",
    "z$!D#CARONbb%!D#CARONz$!D#STROKEbc%!D#STROKEba$!E#MACRONbc%!E#MACRONba$!E#BREVEbb%!E#BREVEz$!E#DOT+bf%!E#DOT+",
    "bd$!E#OGONEKbc%!E#OGONEKba$!E#CARONbb%!E#CARONz$!G#CIRCUMFLEXbg%!G#CIRCUMFLEXbe$!G#BREVEbb%!G#BREVEz$!G#DOT+",
    "bf%!G#DOT+bd$!G#CEDILLAbd%!G#CEDILLAbb$!H#CIRCUMFLEXbg%!H#CIRCUMFLEXbe$!H#STROKEbc%!H#STROKEba$!I#TILDE",
    "bb%!I#TILDEz$!I#MACRONbc%!I#MACRONba$!I#BREVEbb%!I#BREVEz$!I#OGONEKbc%!I#OGONEKba$!I#DOT+bf%!DOTLESS I",
    "w$ LIGATURE IJt% LIGATURE IJr$!J#CIRCUMFLEXbg%!J#CIRCUMFLEXbe$!K#CEDILLAbd%!K#CEDILLAnRAq$!L#ACUTEbb%!L#ACUTE",
    "z$!L#CEDILLAbd%!L#CEDILLAbb$!L#CARONbb%!L#CARONz$!L#MIDDLE DOTbg%!L#MIDDLE DOTbe$!L#STROKEbc%!L#STROKE",
    "ba$!N#ACUTEbb%!N#ACUTEz$!N#CEDILLAbd%!N#CEDILLAbb$!N#CARONbb%!N#CARONkPRECEDED BY APOSTROPHEbl$!ENGs%!ENG",
    "q$!O#MACRONbc%!O#MACRONba$!O#BREVEbb%!O#BREVEz$!O#> ACUTEbi%!O#> ACUTEbg$ LIGATURE OEt% LIGATURE OEr$!R#ACUTE",
    "bb%!R#ACUTEz$!R#CEDILLAbd%!R#CEDILLAbb$!R#CARONbb%!R#CARONz$!S#ACUTEbb%!S#ACUTEz$!S#CIRCUMFLEXbg%!S#CIRCUMFLEX",
    "be$!S#CEDILLAbd%!S#CEDILLAbb$!S#CARONbb%!S#CARONz$!T#CEDILLAbd%!T#CEDILLAbb$!T#CARONbb%!T#CARONz$!T#STROKE",
    "bc%!T#STROKEba$!U#TILDEbb%!U#TILDEz$!U#MACRONbc%!U#MACRONba$!U#BREVEbb%!U#BREVEz$!U#RING+bg%!U#RING+",
    "be$!U#> ACUTEbi%!U#> ACUTEbg$!U#OGONEKbc%!U#OGONEKba$!W#CIRCUMFLEXbg%!W#CIRCUMFLEXbe$!Y#CIRCUMFLEX",
    "bg%!Y#CIRCUMFLEXbe$!Y#DIAERESISqZ#ACUTEbb%!Z#ACUTEz$!Z#DOT+bf%!Z#DOT+bd$!Z#CARONbb%!Z#CARONmLONG SgB#STROKE",
    "ba$!B#HOOKeTOPBARbc%!B#TOPBARba$!TONE SIXx%!TONE SIXv$!OPEN OgC#HOOKba%!C#HOOKy$!AFRICAN DjD#HOOKeTOPBAR",
    "bc%!D#TOPBARnTURNED DELTAz$!REVERSED EkSCHWAfOPEN EgF#HOOKba%!F#HOOKy$!G#HOOKkAMMAu%!HVp$!IOTAd#STROKEnK#HOOK",
    "ba%!K#HOOKlL#BARjAMBDA#STROKEbf$!TURNED MiN#= HOOKbf%!N#LONG ) LEGbi$!O#MIDDLE TILDEmHORNba%!O#HORNy$!OIr%!OI",
    "p$!P#HOOKba%!P#HOOKyLETTER YRj$!TONE TWOx%!TONE TWOv$!ESHsLETTER REVERSED ESH LOOPy%!T#PALATAL HOOKbg$!T#HOOK",
    "ba%!T#HOOKy$!T#RETROFLEX HOOKvU#HORNba%!U#HORNy$!UPSILONhV#HOOKlY#HOOKba%!Y#HOOKy$!Z#STROKEbc%!Z#STROKEba$!EZH",
    "a REVERSEDbb%!EZH REVERSEDiWITH TAILbaLETTER TWO#STROKEw$!TONE FIVEy%!TONE FIVE",
    "wLETTER INVERTED GLOTTAL STOP#STROKEbhWYNNeDENTAL CLICKmLATERAL CLICKnALVEOLAR CLICKoRETROFLEX CLICKw$!DZ#CARON",
    "m#%!Z#CARONbv%!DZ#CARONba$!LJb#%!Jbk%!LJp$!NJb#%!Jbk%!NJp$!A#CARONbb%!A#CARONz$!I#CARONbb%!I#CARONz$!O#CARON",
    "bb%!O#CARONz$!U#CARONbb%!U#CARONz$!U#DIAERESIS*MACRONbq%!U#DIAERESIS*MACRONbo$!U#DIAERESIS*ACUTE",
    "bp%!U#DIAERESIS*ACUTEbn$!U#DIAERESIS*CARONbp%!U#DIAERESIS*CARONbn$!U#DIAERESIS*GRAVEbp%!U#DIAERESIS*GRAVE",
    "baTURNED Ev$!A#DIAERESIS*MACRONbq%!A#DIAERESIS*MACRONbo$!A#DOT+*MACRONbq%!A#DOT+*MACRONbo$!AE#MACRON",
    "bd%!AE#MACRONbb$!G#STROKEbc%!G#STROKEba$!G#CARONbb%!G#CARONz$!K#CARONbb%!K#CARONz$!O#OGONEKbc%!O#OGONEK",
    "ba$!O#OGONEK*MACRONbn%!O#OGONEK*MACRONbl$!EZH#CARONbd%!EZH#CARONoJ#CARONz$!DZb#%!Zbk%!DZp$!G#ACUTEbb%!G#ACUTE",
    "z$!HWAIRfWYNNeN#GRAVEbb%!N#GRAVEz$!A#RING+*ACUTEbq%!A#RING+*ACUTEbo$!AE#ACUTEbc%!AE#ACUTEba$!O#STROKE*ACUTE",
    "bm%!O#STROKE*ACUTEbk$!A#> GRAVEbi%!A#> GRAVEbg$!A#INVERTED BREVEbk%!A#INVERTED BREVEbi$!E#> GRAVEbi%!E#> GRAVE",
    "bg$!E#INVERTED BREVEbk%!E#INVERTED BREVEbi$!I#> GRAVEbi%!I#> GRAVEbg$!I#INVERTED BREVEbk%!I#INVERTED BREVE",
    "bi$!O#> GRAVEbi%!O#> GRAVEbg$!O#INVERTED BREVEbk%!O#INVERTED BREVEbi$!R#> GRAVEbi%!R#> GRAVE",
    "bg$!R#INVERTED BREVEbk%!R#INVERTED BREVEbi$!U#> GRAVEbi%!U#> GRAVEbg$!U#INVERTED BREVEbk%!U#INVERTED BREVE",
    "bi$!S#COMMA?bh%!S#COMMA?bf$!T#COMMA?bh%!T#COMMA?bf$!YOGHt%!YOGHr$!H#CARONbb%!H#CARONz$!N#LONG ) LEGbk%!D#CURL",
    "y$!OUr%!OUp$!Z#HOOKba%!Z#HOOKy$!A#DOT+bf%!A#DOT+bd$!E#CEDILLAbd%!E#CEDILLAbb$!O#DIAERESIS*MACRON",
    "bq%!O#DIAERESIS*MACRONbo$!O#TILDE*MACRONbm%!O#TILDE*MACRONbk$!O#DOT+bf%!O#DOT+bd$!O#DOT+*MACRON",
    "bq%!O#DOT+*MACRONbo$!Y#MACRONbc%!Y#MACRONnL#CURLlN#CURLlT#CURLlDOTLESS JiB DIGRAPHkQP DIGRAPHx$!A#STROKE",
    "nC#STROKEbc%!C#STROKEba$!L#BARkT#DIAGONAL STROKEbl%!S#SWASH TAILrZ#SWASH TAILbe$!GLOTTAL STOPbb%!GLOTTAL STOP",
    "z$!B#STROKEnU BARfTURNED ViE#STROKEbc%!E#STROKEba$!J#STROKEbc%!J#STROKEba$!% Q#HOOK TAILbl%!Q#HOOK TAIL",
    "bd$!R#STROKEbc%!R#STROKEba$!Y#STROKEbc%!Y#STROKEnTURNED AiALPHAfTURNED ALPHAmB#HOOKlOPEN OgC#CURLlD#TAILeHOOK",
    "lREVERSED EkSCHWAa#HOOKpOPEN EgREVERSED OPEN Ea#HOOKzCLOSED REVERSED OPEN EwDOTLESS J#STROKEvG#HOOKlSCRIPT G",
    "vLETTER % $ Gw%!GAMMAfRAMS HORNjTURNED HiH#HOOKkENG#HOOKoI#STROKEmOTArLETTER % $ Iw%!L#MIDDLE TILDEmBELT",
    "eRETROFLEX HOOKuEZHeTURNED Ma#LONG LEGwM#HOOKlN#= HOOKjRETROFLEX HOOKbiLETTER % $ Nw%!BARRED OvLETTER % $ OE",
    "x%!CLOSED OMEGAmPHIdTURNED Ra#LONG LEGiHOOKsR#LONG LEGiTAILeFISHHOOKoEVERSED R#FISHHOOKblLETTER % $ R",
    "bINVERTED Rbf%!S#HOOKlESHdDOTLESS J#STROKE*HOOKbeSQUAT REVERSED ESHsESH#CURLnTURNED Th#RETROFLEX HOOKvU BAR",
    "ePSILONhV#HOOKlTURNED VbWbYvLETTER % $ Yw%!Z#RETROFLEX HOOKoCURLlEZHa#CURLbaLETTER GLOTTAL STOP",
    "mPHARYNGEAL VOICED FRICATIVEbbINVERTED GLOTTAL STOPvSTRETCHED ClBILABIAL CLICKo% $ Bw%!CLOSED OPEN E",
    "baLETTER % $ G#HOOKlHw%!J#CROSSED-TAILtTURNED KvLETTER % $ Lw%!Q#HOOKyLETTER GLOTTAL STOP#STROKE",
    "yREVERSED GLOTTAL STOP#STROKEbo%!DZ DIGRAPHjEZH DIGRAPHlZ DIGRAPH#CURLuTS DIGRAPHjESH DIGRAPHlC DIGRAPH#CURL",
    "uFENG DIGRAPHmLS DIGRAPHjZ DIGRAPHxLETTER BILABIAL PERCUSSIVErDENTAL PERCUSSIVEba%!TURNED H#FISHHOOKa*TAIL",
    "byMODIFIER!% Ha#HOOKlJbRbTURNED Ra#HOOKs$ INVERTED RsWbYhPRIMEf> PRIMEmTURNED COMMAmAPOSTROPHEkREVERSED COMMA",
    "nIGHT HALF RINGp= HALF RINGoGLOTTAL STOPmREVERSED GLOTTAL STOPv=&HEADo)&HEADpUP&HEADmDOWN&HEAD",
    "oCIRCUMFLEX ACCENTbhCARONfMODIFIER!_ LINEnMACRONgACUTE ACCENTmGRAVE ACCENTmLOW _ LINEnMACRONgGRAVE ACCENT",
    "mACUTE ACCENTqTRIANGULAR COLONqHALF TRIANGULAR COLONvCENTRED ) HALF RINGp= HALF RINGwUP TACKhDOWN TACKjPLUS.",
    "jMINUS.baBREVEfDOT+jRING+kOGONEKg% TILDEl> ACUTE ACCENTtMODIFIER!RHOTIC HOOKlCROSS ACCENTm% GAMMAfLbSbX",
    "bREVERSED GLOTTAL STOPbbEXTRA-HIGH TONE BARtHIGH TONE BARnMID TONE BARmLOW TONE BARmEXTRA-LOW TONE BAR",
    "sYIN DEPARTING TONE|wANG DEPARTING TONE|yVOICINGhUNASPIRATEDl> APOSTROPHErLOW DOWN&HEADoUP&HEADm=&HEADo)&HEAD",
    "nNGiMIDDLE GRAVE ACCENTm> GRAVE ACCENTmACUTE ACCENTbaLOW TILDEjRAISED COLONmBEGIN HIGH TONEpEND HIGH TONE",
    "nBEGIN LOW TONEoEND LOW TONEmSHELFfOPEN SHELFkLOW =&beCOMBINING GRAVE ACCENTmACUTE ACCENTmCIRCUMFLEX ACCENT",
    "rTILDEfMACRONgOVERLINEiBREVEfDOT+iIAERESISjHOOK+kRING+k> ACUTE ACCENTtCARONf_ LINE+t> _ LINE+tGRAVE ACCENT",
    "tCANDRABINDUlINVERTED BREVEoTURNED COMMA+sCOMMA+lREVERSED COMMA+uCOMMA+ )rGRAVE ACCENT?sACUTE ACCENT?s= TACK?",
    "p) TACK?q= ANGLE+qHORNe= HALF RING?uUP TACK?nDOWN TACK?pPLUS.?pMINUS.?qPALATALIZED HOOK?wRETROFLEX HOOK?uDOT?",
    "iIAERESIS?pRING?kCOMMA?kEDILLAhOGONEKg_ LINE?tBRIDGE?mINVERTED > ARCH?baCARON?kIRCUMFLEX ACCENT?xBREVE?",
    "lINVERTED BREVE?uTILDE?lMACRON?mLOW LINEi> LOW LINEpTILDE OVERLAYnSHORT STROKE OVERLAYuLONG STROKE OVERLAY",
    "tSHORT SOLIDUS OVERLAYvLONG SOLIDUS OVERLAYu) HALF RING?vINVERTED BRIDGE?vSQUARE?lEAGULL?nX+h_ TILDEo> OVERLINE",
    "pGRAVE TONE|pACUTE TONE|pGREEK PERISPOMENIlKORONIShDIALYTIKA TONOSpYPOGEGRAMMENItBRIDGE+mEQUALS.?r> _ LINE?",
    "ba= ANGLE?qNOT TILDE+pHOMOTHETIC+qALMOST EQUAL TO+v= )&?wUP,&?tGRAPHEME JOINERp)&HEAD+v= HALF RING+uFERMATAhX?",
    "h=&HEAD?u)&HEAD?fAND UP&HEAD?bgHALF RING+vDOT+ )pASTERISK?o> RING?rZIGZAG+m> BREVE?hEfMACRONa?mTILDE",
    "fINVERTED BREVEo),&?bdLATIN %!AbEbIbObUbCbDbHbMbRbTbVbXbeGREEK $!HETAt%!HETAr$!ARCHAIC SAMPIbc%!ARCHAIC SAMPI",
    "baNUMERAL.mLOWER NUMERAL.s$!PAMPHYLIAN DIGAMMAbh%!PAMPHYLIAN DIGAMMA;37a:bfYPOGEGRAMMENI",
    "n% REVERSED LUNATE SIGMA~bcDOTTED LUNATE SIGMA~baREVERSED DOTTED LUNATE SIGMA~bpQUESTION|n$!YOT;384:sTONOS",
    "fDIALYTIKA TONOSp$!ALPHA#TONOSbfANO TELEIAk$!EPSILON#TONOSrTA#TONOSoIOTA#TONOS;38c:pOMICRON#TONOS",
    "38e:sUPSILON#TONOSsOMEGA#TONOSbf%!IOTA#DIALYTIKA*TONOSbq$!ALPHAfBETAeGAMMAfDELTAfEPSILONhZETAeETAdTHETAfIOTA",
    "eKAPPAfLAMDAfMUcNUcXIcOMICRONhPIcRHO;3a3:dSIGMAfTAUdUPSILONhPHIdCHIdPSIdOMEGAfIOTA#DIALYTIKAtUPSILON#DIALYTIKA",
    "bl%!ALPHA#TONOSqEPSILON#TONOSrTA#TONOSoIOTA#TONOSpUPSILON#DIALYTIKA*TONOSbgALPHAfBETAeGAMMAfDELTAfEPSILONhZETA",
    "eETAdTHETAfIOTAeKAPPAfLAMDAfMUcNUcXIcOMICRONhPIcRHOd^ SIGMAlSIGMAfTAUdUPSILONhPHIdCHIdPSIdOMEGAfIOTA#DIALYTIKA",
    "tUPSILON#DIALYTIKAwOMICRON#TONOSsUPSILON#TONOSsOMEGA#TONOSbd$ KAI~sBETA~lTHETA~mUPSILON#HOOK~lACUTE*HOOK~",
    "vDIAERESIS*HOOK~bmPHI~jI~jKAI~kLETTER ARCHAIC KOPPAu%!ARCHAIC KOPPAbaLETTER STIGMAn%!STIGMAtLETTER DIGAMMA",
    "o%!DIGAMMAuLETTER KOPPAm%!KOPPAsLETTER SAMPIm%!SAMPIyCOPTIC $!SHEIt%!SHEIr$!FEIs%!FEIq$!KHEIt%!KHEIr$!HORI",
    "t%!HORIr$!GANGIAv%!GANGIAt$!SHIMAu%!SHIMAs$!DEIs%!DEIxGREEK KAPPA~mRHO~kLUNATE SIGMA~sETTER YOTk$ THETA~",
    "uLUNATE EPSILON~vREVERSED LUNATE EPSILON~be$!SHOs%!SHOq$ LUNATE SIGMA~sETTER SANs%!SANqRHO#STROKE~",
    "w$ REVERSED LUNATE SIGMA~bcDOTTED LUNATE SIGMA~baREVERSED DOTTED LUNATE SIGMA~bxCYRILLIC $!IE#GRAVEmOcDJEdGJE",
    "dUKRAINIAN IEmDZEdBYELORUSSIAN-UKRAINIAN IyYIcJEcLJEdNJEdTSHEeKJEdI#GRAVEmSHORT UhDZHEeAbBEcVEcGHEdDEcIEcZHEcE",
    "cIbSHORT IhKAcELbMbNcObPEcERbScTEcUbEFcHAcTSEdCHEdSHAbCHAfHARD.jYERUeSOFT.jEbYUbAr%!AbBEcVEcGHEdDEcIEcZHEcEcI",
    "bSHORT IhKAcELbMbNcObPEcERbScTEcUbEFcHAcTSEdCHEdSHAbCHAfHARD.jYERUeSOFT.jEbYUbAcIE#GRAVEmOcDJEdGJEdUKRAINIAN IE",
    "mDZEdBYELORUSSIAN-UKRAINIAN IyYIcJEcLJEdNJEdTSHEeKJEdI#GRAVEmSHORT UhDZHEr$!OMEGAu%!OMEGAs$!YATs%!YAT",
    "q$!IOTIFIED Ez%!IOTIFIED Ex$!LITTLE YUSz%!LITTLE YUSx$!IOTIFIED LITTLE YUSbi%!IOTIFIED LITTLE YUSbg$!BIG YUS",
    "w%!BIG YUSu$!IOTIFIED BIG YUSbf%!IOTIFIED BIG YUSbd$!KSIs%!KSIq$!PSIs%!PSIq$!FITAt%!FITAr$!IZHITSAw%!IZHITSA",
    "u$!IZHITSA#> GRAVE ACCENTbv%!IZHITSA#> GRAVE ACCENTbt$!UKr%!UKp$!ROUND OMEGAba%!ROUND OMEGAy$!OMEGA#TITLO",
    "bf%!OMEGA#TITLObd$!OTr%!OTp$!KOPPAu%!KOPPAsTHOUSANDS.wOMBINING CYRILLIC TITLOfPALATALIZATIONoDASIA PNEUMATA",
    "oPSILI PNEUMATAnOKRYTIEiHUNDRED THOUSANDS.wMILLIONS.bfYRILLIC $!SHORT I#TAILbg%!SHORT I#TAILbe$!SEMISOFT.",
    "bc%!SEMISOFT.ba$!ER#TICKbb%!ER#TICKz$!GHE#UPTURNbe%!GHE#UPTURNbc$!GHE#STROKEbe%!GHE#STROKEbc$!GHE#MIDDLE HOOK",
    "bj%!GHE#MIDDLE HOOKbh$!ZHE#DESCENDERbh%!ZHE#DESCENDERbf$!ZE#DESCENDERbg%!ZE#DESCENDERbe$!KA#DESCENDER",
    "bg%!KA#DESCENDERbe$!KA#_ STROKEbm%!KA#_ STROKEbk$!KA#STROKEbd%!KA#STROKEbb$!BASHKIR KAz%!BASHKIR KA",
    "x$!EN#DESCENDERbg%!EN#DESCENDERbe$ LIGATURE EN GHEx% LIGATURE EN GHEv$!PE#MIDDLE HOOKbi%!PE#MIDDLE HOOK",
    "bg$!ABKHASIAN HAbb%!ABKHASIAN HAz$!ES#DESCENDERbg%!ES#DESCENDERbe$!TE#DESCENDERbg%!TE#DESCENDERbe$!STRAIGHT U",
    "z%!STRAIGHT Ux$!STRAIGHT U#STROKEbl%!STRAIGHT U#STROKEbj$!HA#DESCENDERbg%!HA#DESCENDERbe$ LIGATURE TE TSE",
    "x% LIGATURE TE TSEv$!CHE#DESCENDERbh%!CHE#DESCENDERbf$!CHE#_ STROKEbn%!CHE#_ STROKEbl$!SHHAt%!SHHA",
    "r$!ABKHASIAN CHEbc%!ABKHASIAN CHEba$!ABKHASIAN CHE#DESCENDERbr%!ABKHASIAN CHE#DESCENDERbpLETTER PALOCHKA",
    "p$!ZHE#BREVEbd%!ZHE#BREVEbb$!KA#HOOKbb%!KA#HOOKz$!EL#TAILbb%!EL#TAILz$!EN#HOOKbb%!EN#HOOKz$!EN#TAILbb%!EN#TAIL",
    "z$!KHAKASSIAN CHEbd%!KHAKASSIAN CHEbb$!EM#TAILbb%!EM#TAILmPALOCHKAv$!A#BREVEbb%!A#BREVEz$!A#DIAERESIS",
    "bf%!A#DIAERESISbd$ LIGATURE A IEv% LIGATURE A IEt$!IE#BREVEbc%!IE#BREVEba$!SCHWAu%!SCHWAs$!SCHWA#DIAERESIS",
    "bj%!SCHWA#DIAERESISbh$!ZHE#DIAERESISbh%!ZHE#DIAERESISbf$!ZE#DIAERESISbg%!ZE#DIAERESISbe$!ABKHASIAN DZE",
    "bc%!ABKHASIAN DZEba$!I#MACRONbc%!I#MACRONba$!I#DIAERESISbf%!I#DIAERESISbd$!O#DIAERESISbf%!O#DIAERESIS",
    "bd$!BARRED Ox%!BARRED Ov$!BARRED O#DIAERESISbm%!BARRED O#DIAERESISbk$!E#DIAERESISbf%!E#DIAERESISbd$!U#MACRON",
    "bc%!U#MACRONba$!U#DIAERESISbf%!U#DIAERESISbd$!U#> ACUTEbi%!U#> ACUTEbg$!CHE#DIAERESISbh%!CHE#DIAERESIS",
    "bf$!GHE#DESCENDERbh%!GHE#DESCENDERbf$!YERU#DIAERESISbi%!YERU#DIAERESISbg$!GHE#STROKE*HOOKbn%!GHE#STROKE*HOOK",
    "bl$!HA#HOOKbb%!HA#HOOKz$!HA#STROKEbd%!HA#STROKEbb$!KOMI DEw%!KOMI DEu$!KOMI DJEx%!KOMI DJEv$!KOMI ZJE",
    "x%!KOMI ZJEv$!KOMI DZJEy%!KOMI DZJEw$!KOMI LJEx%!KOMI LJEv$!KOMI NJEx%!KOMI NJEv$!KOMI SJEx%!KOMI SJE",
    "v$!KOMI TJEx%!KOMI TJEv$!REVERSED ZEba%!REVERSED ZEy$!EL#HOOKbb%!EL#HOOKz$!LHAs%!LHAq$!RHAs%!RHAq$!YAEs%!YAE",
    "q$!QAr%!QAp$!WEr%!WEp$!ALEUT KAx%!ALEUT KAv$!EL#MIDDLE HOOKbi%!EL#MIDDLE HOOKbg$!EN#MIDDLE HOOK",
    "bi%!EN#MIDDLE HOOKbg$!PE#DESCENDERbg%!PE#DESCENDERbe$!SHHA#DESCENDERbi%!SHHA#DESCENDERbg$!EN#= HOOK",
    "bg%!EN#= HOOKbe$!DZZHEu%!DZZHEs$!DCHEt%!DCHEr$!EL#DESCENDERbg%!EL#DESCENDER;531:bnARMENIAN $!AYBdBENdGIMdDAcECH",
    "dZAcEHbTcTOcZHEdINIdLIWNeXEHdCAcKENdHOcJAcGHADeCHEHeMENdYIcNOWdSHAdVOcCHAdPEHdJHEHeRAcSEHdVEWdTIWNeREHdCOcYIWN",
    "ePIWReKEHdOHcFEH;559:sMODIFIER!= HALF RINGbeAPOSTROPHEkEMPHASIS|mXCLAMATION|qCOMMAfQUESTION|nABBREVIATION|",
    "r%!TURNED AYBkAYBdBENdGIMdDAcECHdZAcEHbTcTOcZHEdINIdLIWNeXEHdCAcKENdHOcJAcGHADeCHEHeMENdYIcNOWdSHAdVOcCHAdPEH",
    "dJHEHeRAcSEHdVEWdTIWNeREHdCOcYIWNePIWReKEHdOHcFEHjIGATURE ECH YIWNqETTER YI#STROKEbbFULL STOPjHYPHEN",
    "58d:p)-FACING ARMENIAN ETERNITY.bj=-FACING ARMENIAN ETERNITY.biARMENIAN DRAM.;591:sHEBREW ACCENT ETNAHTAhSEGOL",
    "eHALSHELETkZAQEF QATANfGADOLlTIPEHAgREVIAfZARQAfPASHTAgYETIVfTEVIRfGERESHa MUQDAMkSHAYIMjQARNEY PARA",
    "lTELISHA GEDOLAoPAZERfATNAH HAFUKHmMUNAHeAHAPAKHhERKHAa KEFULAnDARGAfQADMAfTELISHA QETANAoYERAH BEN YOMOoOLE",
    "dILUYeDEHIeZINORmMARK MASORA CIRCLEsPOINT SHEVAfHATAF SEGOLfPATAHfQAMATSlIRIQfTSEREfSEGOLfPATAHfQAMATSgHOLAM",
    "a HASER FOR VAVtQUBUTSgDAGESH OR MAPIQpMETEGkUNCTUATION MAQAFqOINT RAFEjUNCTUATION PASEQqOINT SHIN DOThIN DOT",
    "mUNCTUATION SOF PASUQvMARK UPPER DOTjLOWER DOToPUNCTUATION NUN HAFUKHAwOINT QAMATS QATAN;5d0:sLETTER ALEFeBET",
    "dGIMELfDALETfHEcVAVdZAYINfHETdTETdYODd^ KAFjKAFdLAMEDf^ MEMjMEMd^ NUNjNUNdSAMEKHgAYINe^ PEiPEc^ TSADIlTSADIfQOF",
    "dRESHeSHINeTAV;5ef:kYOD@mLIGATURE YIDDISH > VAVkVAV YODh> YODbbPUNCTUATION GERESHdSHAYIM;600:bcARABIC NUMBER.",
    "lSIGN SANAHkFOOTNOTE|ERpSIGN SAFHAdMVATlNUMBER|+s-INDIC CUBE ROOTjFOURTH ROOTs RAYe-INDIC PER MILLE.",
    "kTEN THOUSAND.bhFGHANI.lRABIC COMMAfDATE SEPARATORoPOETIC VERSE.rSIGN MISRAfSALLALLAHOU ALAYHE WASSALLAM",
    "bcALAYHE ASSALLAMpRAHMATULLAH ALAYHEqDI ALLAHOU ANHUrTAKHALLUSnMALL HIGH TAHdLIGATURE ALEF#LAM#YEHbfZAINjFATHA",
    "fDAMMAfKASRAkEMICOLONjLETTER|lEND OF TEXT|qTRIPLE DOT PUNCTUATION|bbQUESTION|nLETTER KASHMIRI YEHmHAMZA",
    "fALEF#MADDA+lHAMZA+vWAW#HAMZA+uALEF#HAMZA?vYEH#HAMZA+uALEFeBEHdTEH MARBUTAjHcHEHeJEEMeHAHdKHAHeDALdTHALeREH",
    "dZAINeSEENdHEENeADdDADdTAHdZAHdAINdGHAINfKEHEH#TWO DOTS+nHREE DOTS?bbFARSI YEH#INVERTED VkTWO DOTS+nHREE DOTS+",
    "bmTATWEELhLETTER FEHdQAFdKAFdLAMdMEEMeNOONeHEHdWAWdALEF MAKSURAmYEHkFATHATANiDAMMATANiKASRATANiFATHAfDAMMA",
    "fKASRAfSHADDAfUKUNfMADDAH+mHAMZA+fBELOWlSUBSCRIPT ALEFoINVERTED DAMMAoMARK NOON GHUNNAqZWARAKAYiVOWEL. % V+",
    "nINVERTED % V+wDOT?uREVERSED DAMMAoFATHA#TWO DOTStWAVY HAMZA?r-INDIC DIGIT ZEROeONEdTWOcHREEfFOURdIVEeSIXcEVEN",
    "fEIGHTfNINEr PERCENT.mDECIMAL SEPARATORrTHOUSANDS SEPARATORtFIVE POINTED STARrLETTER DOTLESS BEHdQAF",
    "lSUPERSCRIPT ALEFqALEF WASLAeITH WAVY HAMZA+fBELOWbaHIGH HAMZAa ALEFeWAWoU#HAMZA+sHIGH HAMZA YEHoTTEHaEHgBEEH",
    "eTEH#RINGeTHREE DOTS+ DOWN,bjPEHdTEHEHfBEHEHfHAH#HAMZA+lTWO DOTS _+bgNYEHeDYEHeHAH#THREE DOTS+zTCHEHaEHhDDAL",
    "dAL#RINGeDOT?a*% TAHbeHALeDAHALfULcAL#THREE DOTS+ DOWN,baFOUR DOTS+yRREHdEH#% VhRINGeDOT?j% V?nDOT?*DOT+",
    "xTWO DOTS+xJEHdREH#FOUR DOTS+ySEEN#DOT?*DOT+xTHREE DOTS?a*THREE DOTS+buAD#TWO DOTS?nHREE DOTS+zTAH#THREE DOTS+",
    "zAIN#THREE DOTS+zDOTLESS FEHlFEH#DOT MOVED?lBELOWsVEHdFEH#THREE DOTS?zPEHEHfQAF#DOT+jTHREE DOTS+zKEHEH",
    "fSWASH KAFjKAF#RINGeDOT+sNGcKAF#THREE DOTS?zGAFa#RINGnNGOEHfGAF#TWO DOTS?wUEHdAF#THREE DOTS+zLAM#% VhDOT+",
    "jTHREE DOTS+fBELOWzNOON#DOT?oGHUNNAlRNOONfNOON#RINGeTHREE DOTS+baHEH DOACHASHMEEpTCHEH#DOT+uHEH#YEH+oGOAL",
    "a#HAMZA+zTEH MARBUTA GOALqWAW#RINGnKIRGHIZ OEkOEcUbYUcKIRGHIZ YUkWAW#TWO DOTS+xVEcFARSI YEHjYEH#TAILe% V",
    "qWAW#DOT+sEbYEH#THREE DOTS?vBARREEa#HAMZA+biFULL STOPjLETTER AEj% HIGH LIGATURE SAD#LAM#ALEF MAKSURA",
    "beQAF#LAM#ALEF MAKSURAbnMEEM INITIAL(rLAM ALEFiJEEMeTHREE DOTSkSEENpEND OF AYAHlSTART OF RUB EL HIZB",
    "tMALL HIGH ROUNDED ZEROmUP) RECTANGULAR ZEROyDOTLESS HEAD OF KHAHuMEEM<(xLOW SEENiHIGH MADDAkWAWdYEHdHIGH YEH",
    "dNOONpPLACE OF SAJDAHpEMPTY CENTRE LOW STOPiHIGH STOPwROUNDED HIGH STOP#FILLED CENTREbk% LOW MEEM",
    "oLETTER DAL#INVERTED VtREH#INVERTED VbhEXTENDED ARABIC-INDIC DIGIT ZEROeONEdTWOcHREEfFOURdIVEeSIXcEVENfEIGHT",
    "fNINEbgARABIC!SHEEN#DOT?uDAD#DOT?sGHAIN#DOT?bbSIGN SINDHI AMPERSANDjPOSTPOSITION MENbcLETTER HEH#INVERTED V",
    "bhSYRIAC END OF PARAGRAPHqSUPRALINEAR FULL STOPtBLINEAR FULL STOPrPRALINEAR COLONpBLINEAR COLON",
    "pHORIZONTAL COLONqCOLON SKEWED =e)sSUPRALINEAR COLON SKEWED =bbBLINEAR COLON SKEWED )bcCONTRACTION",
    "lHARKLEAN OBELUSgMETOBELUSjASTERISCUS;70f:tABBREVIATION|rLETTER ALAPHfSUPERSCRIPT ALAPHrBETHeGAMALa GARSHUNI",
    "oDALATHfOTLESS DALATH RISHtHEcWAWdZAINeHETHeTETHa GARSHUNInYUDHa HEhKAPHeLAMADHgMIMdNUNdSEMKATHh^ SEMKATHnEbPE",
    "cREVERSED PElSADHEfQAPHeRISHeSHINeTAWdPERSIAN BHETHfGHAMALgDHALATHwPTHAHA+fBELOWfDOTTEDnZQAPHA+fBELOWfDOTTED",
    "nRBASA+fBELOWlDOTTED ZLAMA HORIZONTALkANGULARuHBASA+fBELOWg-ESASA DOTTEDsESASA+fBELOWlRWAHAfFEMININE DOT",
    "mQUSHSHAYAjRUKKAKHAiTWO _ DOTS+fBELOWwHREE DOTS+fBELOWqOBLIQUE LINE+fBELOWsMUSICfBARREKH",
    "74d:hLETTER SOGDIAN ZHAINfKHAPHfFEyARABIC!BEH#THREE DOTS HORIZONTALLY?bdDOT?*THREE DOTS+",
    "beTHREE DOTS POINTING UP,?a*TWO DOTS+bzWO DOTS?*DOT+bcINVERTED % V?w% VqHAH#TWO DOTS+nHREE DOTS POINTING UP,?",
    "bqDAL#TWO DOTS _LY?*% TAHbnINVERTED % V?bfREH#STROKEpSEEN#FOUR DOTS+zAIN#TWO DOTS+nHREE DOTS POINTING DOWN,+",
    "biWO DOTS _LY+biFEH#TWO DOTS?nHREE DOTS POINTING UP,?bqKEHEH#DOT+jTHREE DOTS+fPOINTING UP,?bsMEEM#DOT+fBELOW",
    "tNOON#TWO DOTS?o% TAHdVrLAM#BARmREH#TWO DOTS _LY+zHAMZA+uSEEN#TWO DOTS _LY+bjHAH#% ARABIC!TAH?fAND TWO DOTS",
    "btSEEN#% ARABIC!TAH*TWO DOTSbuREH#% ARABIC!TAH*TWO DOTSbtHAH#% ARABIC!TAH+",
    "bmALEF#EXTENDED ARABIC-INDIC DIGIT TWO+iHREE+bxFARSI YEH#EXTENDED ARABIC-INDIC DIGIT TWO+iHREE+lFOUR?",
    "cbWAW#EXTENDED ARABIC-INDIC DIGIT TWO+iHREE+bwYEH BARREE#EXTENDED ARABIC-INDIC DIGIT TWO+iHREE+",
    "cdHAH#EXTENDED ARABIC-INDIC DIGIT FOUR?bvSEEN#EXTENDED ARABIC-INDIC DIGIT FOUR+bmINVERTED VuKAF#TWO DOTS+",
    "blTHAANA!HAAdSHAVIYANIjNOONUfRAAdBAAdLHAVIYANIjKAAFUfALIFUfVAAVUfMEEMUfFAAFUfDHAALUgTHAAeLAAMUfGAAFUeNAVIYANI",
    "jSEENUfDAVIYANIiZAVIYANIiTAVIYANIiYAAdPAVIYANIiJAVIYANIiCHAVIYANIjTTAAeHHAAeKHAAeTHAALUgZAAdSHEENUfAADHUgDAADHU",
    "gTOcZOcAINUeGHAINUgQAAFUfWAAVUmABAFILIgABAAFILIjIBIFILIhEEBEEFILIjUBUFILIhOOBOOFILIjEBEFILIgYBEYFILIjOBOFILI",
    "gABOAFILIjSUKUNfLETTER NAA;7c0:rNKO DIGIT ZEROeONEdTWOcHREEfFOURdIVEeSIXcEVENfEIGHTfNINEkLETTER AbEEcIbEbUbOOcO",
    "bDAGBASINNAkNbBAcPAcTAcJAcCHAdDAcRAbRAdSAcGBAdFAcKAcLAcNA WOLOSOjMAcNYAcAcHAcWAcYAcNYA WOLOSOkJONA JAcCHAdRA",
    "oCOMBINING SHORT HIGH TONEjLOW TONEiRISING TONErLONG DESCENDING TONEpHIGH TONEjLOW TONEiRISING TONE",
    "qNASALIZATION|r> DOT+baHIGH TONE APOSTROPHEuLOW TONE APOSTROPHEtSYMBOL OO DENNENjGBAKURUNENrCOMMAfEXCLAMATION|",
    "qLAJANYALAN;7fd:kDANTAYALANjOROME.lTAMAN.oSAMARITAN!ALAFeBITdGAMANfDALATfIYcBAAdZENdITcTITdYUTdKAAFeLABATfMIM",
    "dNUNdSINGAAThINcFIcTSAADIYhQUFdRISHeSHANeTAAFlMARK INa-ALAFhOCCLUSIONjDAGESHkODIFIER!EPENTHETIC YUT",
    "bdARK EPENTHETIC YUTtVOWEL. LONG EgEbOVERLONG AAlLONG AAhAAcOVERLONG AkLONG AgAmMODIFIER!SHORT AxVOWEL. SHORT A",
    "hLONG UgUmMODIFIER!IrVOWEL. LONG IgIbObSUKUNqMARK NEQUDAA;830:mPUNCTUATION NEQUDAAhAFSAAQfNGEDfBAUdATMAAU",
    "gSHIYYAALAAwABBREVIATION|rPUNCTUATION MELODIC QITSAnZIQAAfQITSAfZAEFeTURUeARKAANUhSOF MASHFAATmANNAAU",
    "840:bcMANDAIC!HALQAfABbGbDbHcUSHENNAhAZcITcATTcKSAdKbLbMbNbScINcAPbSZcQbRbSHcTcDUSHENNAiKADdAINkAFFRICATION|",
    "qVOCALIZATION|rGEMINATION|;85e:pPUNCTUATION;860:tSYRIAC!MALAYALAM NGAdJAcNYAdTTAdNNAbNAeBHAdRAcLLAbLAeSSA",
    "870:bbARABIC!ALEF#ATTACHED FATHAfTOP ) FATHAy) MIDDLE STROKEt= MIDDLE STROKEsATTACHED KASRAfBOTTOM ) KASRA",
    "sROUND DOT+oIGHT ROUND DOTp= ROUND DOToROUND DOT?yDOT+jATTACHED TOP ) FATHA*DOT+bm) MIDDLE STROKE*DOT+",
    "bhATTACHED BOTTOM ) KASRA*DOT+bgTOP ) FATHA*= RINGbm) MIDDLE STROKE*= RINGbhATTACHED BOTTOM ) KASRA*= RING",
    "bg) HAMZAl= HAMZAbkTATWEEL#OVERSTRUCK HAMZAfWAWoTWO DOTS?bbLETTER THIN YEHpBASELINE ROUND DOTsRAISED ROUND DOT",
    "qLETTER NOON#INVERTED % VbaHAH#INVERTED % V?bfTAH#DOT?jTHREE DOTS?zKEHEH#TWO DOTS _LY?br_ TAIL;890:nPOUND|+",
    "pIASTRE|+;898:s% HIGH WORD AL-JUZqLOW WORD ISHMAAMgMAALAgTASHEELwMADDA WAAJIBmSUPERSCRIPT ALEF MOKHASSAS",
    "ba>D MADDAnHALF MADDA OVER MADDAvLETTER BEH#% V?nHAMZA+uJEEM#TWO DOTS+yTAH#TWO DOTS+xFEH#DOT?*THREE DOTS+",
    "bnQAF#DOT?sLAM#> BARtMEEM#THREE DOTS+baYEH#TWO DOTS?*HAMZA+lDOT+blREH#LOOPnWAW#DOT WITHINtROHINGYA YEHmLOW ALEF",
    "iDAL#THREE DOTS?zSAD#THREE DOTS?zGAF#INVERTED STROKEySTRAIGHT WAWmZAIN#INVERTED V+baAIN#THREE DOTS?zKAF#DOT?",
    "sQAF#DOT?*NO DOTS+bkBEH#% MEEM+zPEH#% MEEM+zTEH#% TEH+yREH#% NOON+zYEH#TWO DOTS?*% NOON+bsAFRICAN FEHdQAFdNOON",
    "mPEH#% VqTEH#% VpTEH#% VqCHEH#% VsKEHEH#% VsGHAIN#THREE DOTS+bbAFRICAN QAF#THREE DOTS+bhJEEM#THREE DOTS+fBELOW",
    "baLAM#% ARABIC!TAH+bmGRAFl% FARSI YEHjHIGH FARSI YEHjYEH BARREE#TWO DOTS?beWORD SAHiZAHoLARGE ROUND DOT+fBELOW",
    "vSUKUN?lLARGE CIRCLE?mROUND DOT INSIDE CIRCLE?bj% LOW WAWhHIGH WORD AR-RUBlSADdAINdQAFdNOON#KASRA",
    "uLOW NOON#KASRAtHIGH WORD ATH-THALATHAlS-SAJDAhN-NISFhSAKTAfQIFdWAQFAkFOOTNOTE|ERpSIGN SAFHA",
    "vDISPUTED END OF AYAHuTURNED DAMMA?sCURLY FATHAfDAMMAfKASRAfFATHATANiDAMMATANiKASRATANoTONE ONE DOT+nTWO DOTS+",
    "oLOOP+kONE DOT?nTWO DOTS?oLOOP?pOPEN FATHATANiDAMMATANiKASRATANn% HIGH WAWoFATHA#RINGeDOT+uKASRA#DOT?u=&HEAD+",
    "u)&HEAD+v=&HEAD?u)&HEAD?v> )&HEAD+a#DOTbl)&HEAD+#DOTbeDAMMA#DOToMARK SIDEWAYS NOON GHUNNA",
    "bgDEVANAGARI. INVERTED CANDRABINDUuCANDRABINDUlANUSVARAiVISARGAmLETTER SHORT AhAaAcIaIcUaUcVOCALIC RbLjCANDRA E",
    "iSHORT EhEbAIcCANDRA OiSHORT OhObAUcKAbHAdGAbHAdNGAdCAbHAdJAbHAdNYAdTTAbHAeDDAbHAeNNAdTAbHAdDAbHAdNAbNNAePAbHA",
    "dBAbHAdMAcYAcRAbRAdLAbLAbLAeVAcSHAcSAcAcHAjVOWEL. OEbOEoSIGN NUKTAfAVAGRAHAnVOWEL. AAcIaIcUaUcVOCALIC RaR",
    "kCANDRA EiSHORT EhEbAIcCANDRA OiSHORT OhObAUnSIGN VIRAMAlVOWEL. PRISHTHAMATRA EpAWnOMcSTRESS. UDATTAgANUDATTA",
    "uGRAVE ACCENTmACUTE ACCENTmVOWEL. CANDRA LONG EnUEbUEoLETTER QAcKHHAeGHHAeZAcDDDHAfRHAdFAcYYAdVOCALIC RRcLL",
    "rVOWEL. VOCALIC LaLvDANDAeOUBLE DANDAlIGIT ZEROeONEdTWOcHREEfFOURdIVEeSIXcEVENfEIGHTfNINEkABBREVIATION.",
    "rSIGN HIGH SPACING DOTvLETTER CANDRA AiOEbOEdAWcUEbUEdMARWARI DDAlZHAdHEAVY YAiGGAdJJAdGLOTTAL STOPmDDDAeBBA",
    "vBENGALI ANJIeSIGN CANDRABINDUlANUSVARAiVISARGA;985:mLETTER AaAcIaIcUaUcVOCALIC RbL;98f:jEbAI;993:cObAUcKAbHA",
    "dGAbHAdNGAdCAbHAdJAbHAdNYAdTTAbHAeDDAbHAeNNAdTAbHAdDAbHAdNA;9aa:cPAbHAdBAbHAdMAcYAcRA;9b2:cLA;9b6:cSHAcSAcAcHA",
    "9bc:jSIGN NUKTAfAVAGRAHAnVOWEL. AAcIaIcUaUcVOCALIC RaR;9c7:kEbAI;9cb:cObAUnSIGN VIRAMAlLETTER KHANDA TA",
    "9d7:qAU LENGTH|;9dc:oLETTER RRAcHA;9df:dYYAdVOCALIC RRcLLrVOWEL. VOCALIC LaL;9e6:vDIGIT ZEROeONEdTWOcHREEfFOUR",
    "dIVEeSIXcEVENfEIGHTfNINEkLETTER RA#MIDDLE DIAGONALpLOWER DIAGONALbdRUPEE|eSIGNkCURRENCY NUMERATOR ONEdTWOcHREE",
    "fFOUReONE LESS THAN THE DENOMINATORbnDENOMINATOR SIXTEENbcISSHARgGANDA|kLETTER VEDIC ANUSVARAvABBREVIATION.",
    "rSANDHI|;a01:tGURMUKHI. ADAK BINDIkBINDIfVISARGA;a05:mLETTER AaAcIaIcUaU;a0f:cEEcAI;a13:cOOcAUcKAbHAdGAbHAdNGA",
    "dCAbHAdJAbHAdNYAdTTAbHAeDDAbHAeNNAdTAbHAdDAbHAdNA;a2a:cPAbHAdBAbHAdMAcYAcRA;a32:cLAbLA;a35:dVAcSHA;a38:cAcHA",
    "a3c:jSIGN NUKTA;a3e:kVOWEL. AAcIaIcUaU;a47:cEEcAI;a4b:cOOcAUnSIGN VIRAMA;a51:gUDAAT;a59:kLETTER KHHAeGHHAeZA",
    "cRRA;a5e:dFA;a66:jDIGIT ZEROeONEdTWOcHREEfFOURdIVEeSIXcEVENfEIGHTfNINEkTIPPIfADDAKfIRIdURAdEK ONKARiSIGN YAKASH",
    "lABBREVIATION.;a81:yJARATI. CANDRABINDUlANUSVARAiVISARGA;a85:mLETTER AaAcIaIcUaUcVOCALIC RbLqVOWEL CANDRA E",
    "a8f:oLETTER EbAIjVOWEL CANDRA O;a93:oLETTER ObAUcKAbHAdGAbHAdNGAdCAbHAdJAbHAdNYAdTTAbHAeDDAbHAeNNAdTAbHAdDAbHA",
    "dNA;aaa:cPAbHAdBAbHAdMAcYAcRA;ab2:cLAbLA;ab5:dVAcSHAcSAcAcHA;abc:jSIGN NUKTAfAVAGRAHAnVOWEL. AAcIaIcUaU",
    "cVOCALIC RaRkCANDRA E;ac7:iEbAIcCANDRA O;acb:iObAUnSIGN VIRAMA;ad0:lOM;ae0:cLETTER VOCALIC RRcLL",
    "rVOWEL. VOCALIC LaL;ae6:vDIGIT ZEROeONEdTWOcHREEfFOURdIVEeSIXcEVENfEIGHTfNINEkABBREVIATION.rRUPEE.",
    "af9:kLETTER ZHAkSIGN SUKUNeHADDAgMADDAHgTHREE-DOT NUKTA+vCIRCLE NUKTA+sTWO-CIRCLE NUKTA+",
    "b01:bkORIYA. CANDRABINDUlANUSVARAiVISARGA;b05:mLETTER AaAcIaIcUaUcVOCALIC RbL;b0f:jEbAI;b13:cObAUcKAbHAdGAbHA",
    "dNGAdCAbHAdJAbHAdNYAdTTAbHAeDDAbHAeNNAdTAbHAdDAbHAdNA;b2a:cPAbHAdBAbHAdMAcYAcRA;b32:cLAbLA;b35:dVAcSHAcSAcAcHA",
    "b3c:jSIGN NUKTAfAVAGRAHAnVOWEL. AAcIaIcUaUcVOCALIC RaR;b47:kEbAI;b4b:cObAUnSIGN VIRAMA;b55:gOVERLINEnAI LENGTH|",
    "nU LENGTH|;b5c:oLETTER RRAcHA;b5f:dYYAdVOCALIC RRcLLrVOWEL. VOCALIC LaL;b66:vDIGIT ZEROeONEdTWOcHREEfFOURdIVE",
    "eSIXcEVENfEIGHTfNINEkISSHARgLETTER WAjFRACTION ONE QUARTERhHALFiTHREE QUARTERSoONE SIXTEENTHjEIGHTH",
    "kTHREE SIXTEENTHS;b82:bfTAMIL. ANUSVARAiVISARGA;b85:mLETTER AaAcIaIcUaU;b8e:cEaEcAI;b92:cOaOcAUcKA;b99:cNGAdCA",
    "b9c:cJA;b9e:cNYAdTTA;ba3:dNNAdTA;ba8:cNAbNNAePA;bae:cMAcYAcRAbRAdLAbLAbLAeVAcSHAcSAcAcHA;bbe:jVOWEL. AAcIaIcUaU",
    "bc6:cEaEcAI;bca:cOaOcAUnSIGN VIRAMA;bd0:lOM;bd7:cAU LENGTH|;be6:oDIGIT ZEROeONEdTWOcHREEfFOURdIVEeSIXcEVEN",
    "fEIGHTfNINEkNUMBER TENdONE HUNDREDhTHOUSANDtDAY.iMONTH.kYEAR.jDEBIT.kCREDIT.lAS+.nRUPEE.kNUMBER.",
    "c00:qELUGU. COMBINING CANDRABINDU+baANDRABINDUlANUSVARAiVISARGAhCOMBINING ANUSVARA+bdLETTER AaAcIaIcUaU",
    "cVOCALIC RbL;c0e:jEaEcAI;c12:cOaOcAUcKAbHAdGAbHAdNGAdCAbHAdJAbHAdNYAdTTAbHAeDDAbHAeNNAdTAbHAdDAbHAdNA;c2a:cPA",
    "bHAdBAbHAdMAcYAcRAbRAdLAbLAbLAeVAcSHAcSAcAcHA;c3c:jSIGN NUKTAfAVAGRAHAnVOWEL. AAcIaIcUaUcVOCALIC RaR;c46:kEaE",
    "cAI;c4a:cOaOcAUnSIGN VIRAMA;c55:lLENGTH|lAI LENGTH|;c58:oLETTER TSAdDZAdRRRA;c5d:eNAKAARA POLLU;c60:nVOCALIC RR",
    "cLLrVOWEL. VOCALIC LaL;c66:vDIGIT ZEROeONEdTWOcHREEfFOURdIVEeSIXcEVENfEIGHTfNINE;c77:kSIGN SIDDHAM",
    "mFRACTION DIGIT ZERO FOR ODD POWERS OF FOURbbONE FOR ODD POWERS OF FOURbaTWO FOR ODD POWERS OF FOUR",
    "zHREE FOR ODD POWERS OF FOURbcONE FOR EVEN POWERS OF FOURbbTWO FOR EVEN POWERS OF FOUR",
    "baHREE FOR EVEN POWERS OF FOURbsSIGN TUUMUrKANNADA. SPACING CANDRABINDUtCANDRABINDUlANUSVARAiVISARGAhSIDDHAM",
    "mLETTER AaAcIaIcUaUcVOCALIC RbL;c8e:jEaEcAI;c92:cOaOcAUcKAbHAdGAbHAdNGAdCAbHAdJAbHAdNYAdTTAbHAeDDAbHAeNNAdTAbHA",
    "dDAbHAdNA;caa:cPAbHAdBAbHAdMAcYAcRAbRAdLAbLA;cb5:dVAcSHAcSAcAcHA;cbc:jSIGN NUKTAfAVAGRAHAnVOWEL. AAcIaIcUaU",
    "cVOCALIC RaR;cc6:kEaEcAI;cca:cOaOcAUnSIGN VIRAMA;cd5:lLENGTH|lAI LENGTH|;cdd:oLETTER NAKAARA POLLUnFA",
    "ce0:cVOCALIC RRcLLrVOWEL. VOCALIC LaL;ce6:vDIGIT ZEROeONEdTWOcHREEfFOURdIVEeSIXcEVENfEIGHTfNINE",
    "cf1:kSIGN JIHVAMULIYAlUPADHMANIYA;d00:yMALAYALAM. COMBINING ANUSVARA+xANDRABINDUlANUSVARAiVISARGA",
    "mLETTER VEDIC ANUSVARAoAaAcIaIcUaUcVOCALIC RbL;d0e:jEaEcAI;d12:cOaOcAUcKAbHAdGAbHAdNGAdCAbHAdJAbHAdNYAdTTAbHA",
    "eDDAbHAeNNAdTAbHAdDAbHAdNAbNNAePAbHAdBAbHAdMAcYAcRAbRAdLAbLAbLAeVAcSHAcSAcAcHAcTTTAlSIGN _ BAR VIRAMA",
    "tCIRCULAR VIRAMApAVAGRAHAnVOWEL. AAcIaIcUaUcVOCALIC RaR;d46:kEaEcAI;d4a:cOaOcAUnSIGN VIRAMAlLETTER DOT REPH",
    "pSIGN PARA;d54:jLETTER CHILLU MbYbLLLrAU LENGTH|oFRACTION ONE ONE-HUNDRED-AND-SIXTIETHyFORTIETH",
    "mTHREE EIGHTIETHSqONE TWENTIETHiENTHjTHREE TWENTIETHSqONE FIFTHsLETTER ARCHAIC IIkVOCALIC RRcLL",
    "rVOWEL. VOCALIC LaL;d66:vDIGIT ZEROeONEdTWOcHREEfFOURdIVEeSIXcEVENfEIGHTfNINEkNUMBER TENdONE HUNDREDhTHOUSAND",
    "tFRACTION ONE QUARTERhHALFiTHREE QUARTERSoONE SIXTEENTHjEIGHTHkTHREE SIXTEENTHSzDATE|jLETTER CHILLU NNcNbRRcLaL",
    "cK;d81:zSINHALA. CANDRABINDUlANUSVARAYAkVISARGAYA;d85:oLETTER AYANNAfAYANNAgEYANNAfEYANNAiIYANNAfIYANNAhUYANNA",
    "fUYANNAhIRUYANNAfUYANNAiLUYANNAfUYANNAjEYANNAfEYANNAhAIYANNAhOYANNAfOYANNAhAUYANNA;d9a:gLPAPRAANA KAYANNA",
    "sMAHAAPRAANA KAYANNAtALPAPRAANA GAYANNAsMAHAAPRAANA GAYANNAtKANTAJA NAASIKYAYAsSANYAKA GAYANNA",
    "pALPAPRAANA CAYANNAsMAHAAPRAANA CAYANNAtALPAPRAANA JAYANNAsMAHAAPRAANA JAYANNAtTAALUJA NAASIKYAYA",
    "kSANYOOGA NAAKSIKYAYAbcSANYAKA JAYANNApALPAPRAANA TTAYANNAtMAHAAPRAANA TTAYANNAuALPAPRAANA DDAYANNA",
    "tMAHAAPRAANA DDAYANNAtUURDHAJA NAYANNArSANYAKA DDAYANNAqALPAPRAANA TAYANNAsMAHAAPRAANA TAYANNA",
    "tALPAPRAANA DAYANNAsMAHAAPRAANA DAYANNAtDANTAJA NAYANNA;db3:pSANYAKA DAYANNApALPAPRAANA PAYANNA",
    "sMAHAAPRAANA PAYANNAtALPAPRAANA BAYANNAsMAHAAPRAANA BAYANNArYANNAhAMBA BAYANNAmYAYANNAhRAYANNA",
    "dbd:hDANTAJA LAYANNA;dc0:pVAYANNAhTAALUJA SAYANNApMUURDHAJA SAYANNArDANTAJA SAYANNApHAYANNAhMUURDHAJA LAYANNA",
    "rFAYANNA;dca:oSIGN AL-LAKUNA;dcf:oVOWEL. AELA-PILLAkKETTI AEDA-PILLAqDIGA AEDA-PILLApKETTI IS-PILLA",
    "oDIGA IS-PILLAnKETTI PAA-PILLA;dd6:pDIGA PAA-PILLA;dd8:oGAETTA-PILLAmKOMBUVAhDIGA KOMBUVAmKOMBU DEKA",
    "fVA HAA AELA-PILLAkDIGA AELA-PILLApGAYANUKITTAxGAYANUKITTA;de6:wLITH DIGIT ZEROeONEdTWOcHREEfFOURdIVEeSIXcEVEN",
    "fEIGHTfNINE;df2:pVOWEL. DIGA GAETTA-PILLAkYANUKITTAbbPUNCTUATION KUNDDALIYA;e01:beTHAI CHARACTER KO KAIfHO KHAI",
    "cUATdWAIdONeRAKHANGlNGO NGUhCHO CHANcINGdANGjSO SOfCHO CHOEiYO YINGhDO CHADAiTO PATAKhHO THANeNANGMONTHO",
    "kPHUTHAOlNO NENgDO DEKgTO TAOfHO THUNGdAHANeONGjNO NUfBO BAIMAIjPO PLAfHO PHUNGjFO FAfPHO PHANiFO FAN",
    "gPHO SAMPHAOlMO MAfYO YAKgRO RUAfUcLO LINGgUcWO WAENhSO SALAeRUSIeSUAgHO HIPgLO CHULAiO ANGfHO NOKHUKjPAIYANNOI",
    "jSARA AgMAI HAN-AKATmSARA AAbMcIaIcUEaEdUaUhPHINTHU;e3f:qURRENCY~ BAHTtHARACTER SARA EbAEcObAI MAIMUANdALAI",
    "qLAKKHANGYAOlMAIYAMOKfTAIKHUg EKcTHOcRIdCHATTAWAmTHANTHAKHATlNIKHAHITiYAMAKKANiFONGMANrDIGIT ZEROeONEdTWOcHREE",
    "fFOURdIVEeSIXcEVENfEIGHTfNINEkCHARACTER ANGKHANKHUkKHOMUT;e81:vLAO!KObHO SUNG;e84:eTAM;e86:hPALI GHAiNGOdCO",
    "cPALI CHAiSO TAM;e8c:gPALI JHAiNYOdPALI NYAdTTAbHAeDDAbHAeNNAiDOcTObHO SUNGeTAMhPALI DHAiNOcBOcPObHO SUNG",
    "iFO TAMgPHO TAMhFO SUNGhPALI BHAiMOcYOcLO LING;ea5:dOOT;ea7:hWOcSANSKRIT SHAcSAlO SUNGhHO SUNGhPALI LLAiO",
    "bHO TAMnELLIPSISiVOWEL. AbMAI KANhAAbMcIaIcYaYcUaUnSIGN PALI VIRAMAqVOWEL. MAI KONsSEMIVOWEL. LOcNYO",
    "ec0:sVOWEL. EaIcObAYbI;ec6:nKO LA;ec8:fTONE MAI EKcTHOcIcCATAWApCANCELLATION|rNIGGAHITA;ed0:jDIGIT ZEROeONEdTWO",
    "cHREEfFOURdIVEeSIXcEVENfEIGHTfNINE;edc:kHO NOcMOfLETTER KHMU GOcNYO;f00:tTIBETAN SYLLABLE OM",
    "lMARK GTER YIG MGO TRUNCATED Al-UM RNAM BCAD MAmGTER TSHEG MAbeINITIAL YIG MGO MDUN MAxCLOSING YIG MGO SGAB MA",
    "wARET YIG MGO PHUR SHAD MAbaYIG MGO TSHEG SHAD MAvSBRUL SHADkBSKUR YIG MGOmKA- SHOG YIG MGOrINTERSYLLABIC TSHEG",
    "tDELIMITER TSHEG BSTARvSHADeNYIS SHADjTSHEG SHADkNYIS TSHEG SHADpRIN CHEN SPUNGS SHADtGYA GRAM SHAD",
    "oCARET -DZUD RTAGS ME LONG CANbdGTER TSHEGpLOGOTYPE. CHAD RTAGSkLHAG RTAGSyASTROLOGICAL. SGRA GCAN -CHAR RTAGS",
    "v-KHYUD PAjSDONG TSHUGSbeSIGN RDEL DKAR GCIGdNYISeSUMjNAG GCIGdNYISjDKAR RDEL NAGxDIGIT ZEROeONEdTWOcHREEfFOUR",
    "dIVEeSIXcEVENfEIGHTfNINEeHALF ONEdTWOcHREEfFOURdIVEeSIXcEVENfEIGHTfNINEeZEROpMARK BSDUS RTAGS",
    "lNGAS BZUNG NYI ZLAsCARET -DZUD RTAGS BZHI MIG CANbeNGAS BZUNG SGOR RTAGSvCHE MGOhTSA -PHRUjGUG RTAGS GYONcAS",
    "oANG KHANG GYONcAStSIGN YAR TSHESjMAR TSHESoLETTER KAbHAdGAbHAdNGAdCAbHAdJA;f49:cNYAdTTAbHAeDDAbHAeNNAdTAbHAdDA",
    "bHAdNAcPAbHAdBAbHAdMAcTSAbHAeDZAbHAeWAcZHAcAc-AcYAcRAcLAcSHAcSAcAcHAcAbKSSAeFIXED-FORM RAnKKAdRRA",
    "f71:kVOWEL. AAcIaIcUaUcVOCALIC RaRcLaLkEaEcOaOnSIGN RJES SU NGA ROnNAM BCADoVOWEL. REVERSED IaI",
    "wSIGN NYI ZLA NAA DAoSNA LDANnMARK HALANTAhPALUTAlSIGN LCI RTAGSjYANG RTAGSkLCE TSA CANlMCHU CAN",
    "iGRU CAN RGYINGSlMED RGYINGSpINVERTED MCHU CANvUBJOINED. LCE TSA CANlMCHU CANiINVERTED MCHU CANwLETTER KAbHAdGA",
    "bHAdNGAdCAbHAdJA;f99:cNYAdTTAbHAeDDAbHAeNNAdTAbHAdDAbHAdNAcPAbHAdBAbHAdMAcTSAbHAeDZAbHAeWAcZHAcAc-AcYAcRAcLA",
    "cSHAcSAcAcHAcAbKSSAeFIXED-FORM WAcYAcRA;fbe:beKU RU KHAa BZHI MIG CANwCANTILLATION. HEAVY BEATkLIGHT BEAT",
    "kCANG TE-UjSBUB -CHALbcSYMBOL DRIL BUhRDO RJEhPADMA GDANkRDO RJE RGYA GRAMrPHUR PAhNOR BUa NYIS -KHYIL",
    "lGSUM -KHYILlBZHI -KHYIL;fce:yIGN RDEL NAG RDEL DKARjGSUMsMARK BSKA- SHOG GI MGO RGYANxMNYAM YIG GI MGO RGYAN",
    "wNYIS TSHEGkINITIAL BRDA RNYING YIG MGO MDUN MAbjCLOSING BRDA RNYING YIG MGO SGAB MAbw)-FACING SVASTI.",
    "y=-FACING SVASTI.x)-FACING SVASTI.#DOTSbi=-FACING SVASTI.#DOTSbhTIBETAN| LEADING MCHAN RTAGS",
    "tTRAILING MCHAN RTAGS;10fc:bhMODIFIER!GEORGIAN NAR;1735:bcPHILIPPINE SINGLE PUNCTUATIONs> PUNCTUATION",
    "1ab0:bdCOMBINING >D CIRCUMFLEX ACCENTyIAERESIS-RINGoINFINITYiDOWN,&pTRIPLE DOTkX-X?jWIGGLY LINE?rOPEN|?",
    "p> OPEN|?wLIGHT CENTRALIZATION STROKE?bhSTRONG CENTRALIZATION STROKE?biPARENTHESES+r> PARENTHESES+yPARENTHESES?",
    "fOVERLAYtLATIN %!W?hTURNED W?bgEFT PARENTHESIS+ =bb) PARENTHESIS+ )bd= PARENTHESIS? =bb) PARENTHESIS? )",
    "bdSQUARE BRACKETS+vNUMBER.+rINVERTED > ARCH+baPLUS.+p> PLUS.+fBELOWwTRIPLE ACUTE ACCENTtLATIN %!INSULAR GbRbT",
    "1c80:blYRILLIC %!ROUNDED VEkLONG-LEGGED DEoNARROW OiWIDE EShTALL TEgHREE-LEGGED TEoALL HARD.jYATiUNBLENDED UK",
    "1d00:biLATIN!% $ AaEx%!TURNED AEwLETTER % $ BARRED BiCbDbETHdEw%!TURNED OPEN EgIvLETTER % $ JbKbL#STROKEnM",
    "bREVERSED NkOaPEN Obb%!SIDEWAYS OaPEN Of#STROKEwTURNED OEwLETTER % $ OUx%!TOP HALF OkBOTTOM HALF O",
    "baLETTER % $ PbREVERSED RkTURNED RiTbUw%!SIDEWAYS UbDIAERESIZED UnTURNED MbeLETTER % $ VbWbZbEZH",
    "rVOICED LARYNGEAL SPIRANTyAINqGREEK!% $ GAMMAfLAMDAfPIcRHOdPSIbeCYRILLIC!% $ EL;1d43:bgMODIFIER!% AbTURNED A",
    "iALPHAfTURNED AEjBbDbEbSCHWAfOPEN EgTURNED OPEN EnGbTURNED IiKbMbENGdOaPEN OgTOP HALF OkBOTTOM HALF OnPbTbU",
    "bSIDEWAYS UkTURNED MiVbAINdBETAeGREEK GAMMAlDELTAfGREEK PHIjCHI;1d66:zGREEK SUBSCRIPT %!BETAeGAMMAfRHOdPHIdCHI",
    "bgLATIN %!UEcB#MIDDLE TILDEtD#MIDDLE TILDEtF#MIDDLE TILDEtM#MIDDLE TILDEtN#MIDDLE TILDEtP#MIDDLE TILDE",
    "tR#MIDDLE TILDEmFISHHOOK*MIDDLE TILDEbgS#MIDDLE TILDEtT#MIDDLE TILDEtZ#MIDDLE TILDEtTURNED G",
    "bbMODIFIER!CYRILLIC ENbbLATIN %!INSULAR GjTH#STRIKETHROUGHbc$!I#STROKEbcLETTER IOTA#STROKEqP#STROKEu$!U#STROKE",
    "bcLETTER UPSILON#STROKEtB#PALATAL HOOKtD#PALATAL HOOKtF#PALATAL HOOKtG#PALATAL HOOKtK#PALATAL HOOK",
    "tL#PALATAL HOOKtM#PALATAL HOOKtN#PALATAL HOOKtP#PALATAL HOOKtR#PALATAL HOOKtS#PALATAL HOOKtESH#PALATAL HOOK",
    "vV#PALATAL HOOKtX#PALATAL HOOKtZ#PALATAL HOOKtA#RETROFLEX HOOKuLPHA#RETROFLEX HOOKzD#HOOK*TAILuE#RETROFLEX HOOK",
    "vOPEN E#RETROFLEX HOOKbaREVERSED OPEN E#RETROFLEX HOOKbjSCHWA#RETROFLEX HOOKzI#RETROFLEX HOOK",
    "vOPEN O#RETROFLEX HOOKbaESH#RETROFLEX HOOKxU#RETROFLEX HOOKvEZH#RETROFLEX HOOKbqMODIFIER!% TURNED ALPHAmCa#CURL",
    "lETHdREVERSED OPEN EpFbDOTLESS J#STROKEvSCRIPT GiTURNED HiI#STROKEmOTAe$ Ia#STROKEvJ#CROSSED-TAIL",
    "tL#RETROFLEX HOOKoPALATAL HOOKt$ LjM#HOOKlTURNED M#LONG LEGwN#= HOOKjRETROFLEX HOOKv$ NjBARRED OiPHIdS#HOOKlESH",
    "dT#PALATAL HOOKtU BARePSILONh$ UjV#HOOKlTURNED ViZa#RETROFLEX HOOKoCURLlEZHdTHETA",
    "bbCOMBINING DOTTED GRAVE ACCENTmACUTE ACCENTtSNAKE?kUSPENSION|pMACRON-ACUTEmGRAVE-MACRONmMACRON-GRAVE",
    "mACUTE-MACRONmGRAVE-ACUTE-GRAVErACUTE-GRAVE-ACUTErLATIN %!R?baBREVE-MACRONmMACRON-BREVEm> CIRCUMFLEX+xOGONEK+",
    "mZIGZAG?mIS?iUR+hS+iLATIN %!FLATTENED OPEN A+wAEbObVcC CEDILLAjINSULAR DjETHdG;1ddc:bKbL;1de0:bN",
    "1de3:bR ROTUNDAjSbLONG SgZbALPHAfBaETAeSCHWAfFbL#> MIDDLE TILDEbaO#LIGHT CENTRALIZATION STROKEbiPbESH",
    "dU#LIGHT CENTRALIZATION STROKEbiWbA#DIAERESISqO#DIAERESISqU#DIAERESISbjUP TACK+nKAVYKA+ )f=rDOT+ =",
    "oWIDE INVERTED BRIDGE?baDOT? =nELETION|mOUBLE INVERTED BREVE?bbALMOST EQUAL TO?v=&HEAD+u)&HEAD*DOWN&HEAD?",
    "byLATIN $!A#RING?bg%!A#RING?be$!B#DOT+bf%!B#DOT+bd$!B#DOT?bf%!B#DOT?bd$!B#LINE?bg%!B#LINE?be$!C#CEDILLA*ACUTE",
    "bn%!C#CEDILLA*ACUTEbl$!D#DOT+bf%!D#DOT+bd$!D#DOT?bf%!D#DOT?bd$!D#LINE?bg%!D#LINE?be$!D#CEDILLAbd%!D#CEDILLA",
    "bb$!D#CIRCUMFLEX?bm%!D#CIRCUMFLEX?bk$!E#MACRON*GRAVEbm%!E#MACRON*GRAVEbk$!E#MACRON*ACUTEbm%!E#MACRON*ACUTE",
    "bk$!E#CIRCUMFLEX?bm%!E#CIRCUMFLEX?bk$!E#TILDE?bh%!E#TILDE?bf$!E#CEDILLA*BREVEbn%!E#CEDILLA*BREVEbl$!F#DOT+",
    "bf%!F#DOT+bd$!G#MACRONbc%!G#MACRONba$!H#DOT+bf%!H#DOT+bd$!H#DOT?bf%!H#DOT?bd$!H#DIAERESISbf%!H#DIAERESIS",
    "bd$!H#CEDILLAbd%!H#CEDILLAbb$!H#BREVE?bh%!H#BREVE?bf$!I#TILDE?bh%!I#TILDE?bf$!I#DIAERESIS*ACUTE",
    "bp%!I#DIAERESIS*ACUTEbn$!K#ACUTEbb%!K#ACUTEz$!K#DOT?bf%!K#DOT?bd$!K#LINE?bg%!K#LINE?be$!L#DOT?bf%!L#DOT?",
    "bd$!L#DOT?*MACRONbq%!L#DOT?*MACRONbo$!L#LINE?bg%!L#LINE?be$!L#CIRCUMFLEX?bm%!L#CIRCUMFLEX?bk$!M#ACUTE",
    "bb%!M#ACUTEz$!M#DOT+bf%!M#DOT+bd$!M#DOT?bf%!M#DOT?bd$!N#DOT+bf%!N#DOT+bd$!N#DOT?bf%!N#DOT?bd$!N#LINE?",
    "bg%!N#LINE?be$!N#CIRCUMFLEX?bm%!N#CIRCUMFLEX?bk$!O#TILDE*ACUTEbl%!O#TILDE*ACUTEbj$!O#TILDE*DIAERESIS",
    "bp%!O#TILDE*DIAERESISbn$!O#MACRON*GRAVEbm%!O#MACRON*GRAVEbk$!O#MACRON*ACUTEbm%!O#MACRON*ACUTEbk$!P#ACUTE",
    "bb%!P#ACUTEz$!P#DOT+bf%!P#DOT+bd$!R#DOT+bf%!R#DOT+bd$!R#DOT?bf%!R#DOT?bd$!R#DOT?*MACRONbq%!R#DOT?*MACRON",
    "bo$!R#LINE?bg%!R#LINE?be$!S#DOT+bf%!S#DOT+bd$!S#DOT?bf%!S#DOT?bd$!S#ACUTE*DOT+bp%!S#ACUTE*DOT+bn$!S#CARON*DOT+",
    "bp%!S#CARON*DOT+bn$!S#DOT?*DOT+bt%!S#DOT?*DOT+br$!T#DOT+bf%!T#DOT+bd$!T#DOT?bf%!T#DOT?bd$!T#LINE?bg%!T#LINE?",
    "be$!T#CIRCUMFLEX?bm%!T#CIRCUMFLEX?bk$!U#DIAERESIS?bl%!U#DIAERESIS?bj$!U#TILDE?bh%!U#TILDE?bf$!U#CIRCUMFLEX?",
    "bm%!U#CIRCUMFLEX?bk$!U#TILDE*ACUTEbl%!U#TILDE*ACUTEbj$!U#MACRON*DIAERESISbq%!U#MACRON*DIAERESISbo$!V#TILDE",
    "bb%!V#TILDEz$!V#DOT?bf%!V#DOT?bd$!W#GRAVEbb%!W#GRAVEz$!W#ACUTEbb%!W#ACUTEz$!W#DIAERESISbf%!W#DIAERESIS",
    "bd$!W#DOT+bf%!W#DOT+bd$!W#DOT?bf%!W#DOT?bd$!X#DOT+bf%!X#DOT+bd$!X#DIAERESISbf%!X#DIAERESISbd$!Y#DOT+bf%!Y#DOT+",
    "bd$!Z#CIRCUMFLEXbg%!Z#CIRCUMFLEXbe$!Z#DOT?bf%!Z#DOT?bd$!Z#LINE?bg%!Z#LINE?rH#LINE?rT#DIAERESISqW#RING+rY#RING+",
    "rA#) HALF RINGwLONG S#DOT+iIAGONAL STROKEpHIGH STROKEbk$!SHARP Sw%!DELTAs$!A#DOT?bf%!A#DOT?bd$!A#HOOK+",
    "bg%!A#HOOK+be$!A#CIRCUMFLEX*ACUTEbq%!A#CIRCUMFLEX*ACUTEbo$!A#CIRCUMFLEX*GRAVEbq%!A#CIRCUMFLEX*GRAVE",
    "bo$!A#CIRCUMFLEX*HOOK+bv%!A#CIRCUMFLEX*HOOK+bt$!A#CIRCUMFLEX*TILDEbq%!A#CIRCUMFLEX*TILDEbo$!A#CIRCUMFLEX*DOT?",
    "bu%!A#CIRCUMFLEX*DOT?bs$!A#BREVE*ACUTEbl%!A#BREVE*ACUTEbj$!A#BREVE*GRAVEbl%!A#BREVE*GRAVEbj$!A#BREVE*HOOK+",
    "bq%!A#BREVE*HOOK+bo$!A#BREVE*TILDEbl%!A#BREVE*TILDEbj$!A#BREVE*DOT?bp%!A#BREVE*DOT?bn$!E#DOT?bf%!E#DOT?",
    "bd$!E#HOOK+bg%!E#HOOK+be$!E#TILDEbb%!E#TILDEz$!E#CIRCUMFLEX*ACUTEbq%!E#CIRCUMFLEX*ACUTEbo$!E#CIRCUMFLEX*GRAVE",
    "bq%!E#CIRCUMFLEX*GRAVEbo$!E#CIRCUMFLEX*HOOK+bv%!E#CIRCUMFLEX*HOOK+bt$!E#CIRCUMFLEX*TILDEbq%!E#CIRCUMFLEX*TILDE",
    "bo$!E#CIRCUMFLEX*DOT?bu%!E#CIRCUMFLEX*DOT?bs$!I#HOOK+bg%!I#HOOK+be$!I#DOT?bf%!I#DOT?bd$!O#DOT?bf%!O#DOT?",
    "bd$!O#HOOK+bg%!O#HOOK+be$!O#CIRCUMFLEX*ACUTEbq%!O#CIRCUMFLEX*ACUTEbo$!O#CIRCUMFLEX*GRAVEbq%!O#CIRCUMFLEX*GRAVE",
    "bo$!O#CIRCUMFLEX*HOOK+bv%!O#CIRCUMFLEX*HOOK+bt$!O#CIRCUMFLEX*TILDEbq%!O#CIRCUMFLEX*TILDEbo$!O#CIRCUMFLEX*DOT?",
    "bu%!O#CIRCUMFLEX*DOT?bs$!O#HORN*ACUTEbk%!O#HORN*ACUTEbi$!O#HORN*GRAVEbk%!O#HORN*GRAVEbi$!O#HORN*HOOK+",
    "bp%!O#HORN*HOOK+bn$!O#HORN*TILDEbk%!O#HORN*TILDEbi$!O#HORN*DOT?bo%!O#HORN*DOT?bm$!U#DOT?bf%!U#DOT?bd$!U#HOOK+",
    "bg%!U#HOOK+be$!U#HORN*ACUTEbk%!U#HORN*ACUTEbi$!U#HORN*GRAVEbk%!U#HORN*GRAVEbi$!U#HORN*HOOK+bp%!U#HORN*HOOK+",
    "bn$!U#HORN*TILDEbk%!U#HORN*TILDEbi$!U#HORN*DOT?bo%!U#HORN*DOT?bm$!Y#GRAVEbb%!Y#GRAVEz$!Y#DOT?bf%!Y#DOT?",
    "bd$!Y#HOOK+bg%!Y#HOOK+be$!Y#TILDEbb%!Y#TILDEz$!MIDDLE-WELSH LLbe%!MIDDLE-WELSH LLbc$!MIDDLE-WELSH V",
    "bd%!MIDDLE-WELSH Vbb$!Y#LOOPba%!Y#LOOPbeGREEK %!ALPHA#PSILIfDASIAfPSILI*VARIApDASIA*VARIApPSILI*OXIAoDASIA*OXIA",
    "oPSILI*PERISPOMENIvDASIA*PERISPOMENIbt$!ALPHA#PSILIfDASIAfPSILI*VARIApDASIA*VARIApPSILI*OXIAoDASIA*OXIA",
    "oPSILI*PERISPOMENIvDASIA*PERISPOMENIbv%!EPSILON#PSILIfDASIAfPSILI*VARIApDASIA*VARIApPSILI*OXIAoDASIA*OXIA",
    "1f18:bo$!EPSILON#PSILIfDASIAfPSILI*VARIApDASIA*VARIApPSILI*OXIAoDASIA*OXIA;1f20:bq%!ETA#PSILIfDASIAfPSILI*VARIA",
    "pDASIA*VARIApPSILI*OXIAoDASIA*OXIAoPSILI*PERISPOMENIvDASIA*PERISPOMENIbr$!ETA#PSILIfDASIAfPSILI*VARIA",
    "pDASIA*VARIApPSILI*OXIAoDASIA*OXIAoPSILI*PERISPOMENIvDASIA*PERISPOMENIbt%!IOTA#PSILIfDASIAfPSILI*VARIA",
    "pDASIA*VARIApPSILI*OXIAoDASIA*OXIAoPSILI*PERISPOMENIvDASIA*PERISPOMENIbs$!IOTA#PSILIfDASIAfPSILI*VARIA",
    "pDASIA*VARIApPSILI*OXIAoDASIA*OXIAoPSILI*PERISPOMENIvDASIA*PERISPOMENIbu%!OMICRON#PSILIfDASIAfPSILI*VARIA",
    "pDASIA*VARIApPSILI*OXIAoDASIA*OXIA;1f48:bo$!OMICRON#PSILIfDASIAfPSILI*VARIApDASIA*VARIApPSILI*OXIAoDASIA*OXIA",
    "1f50:bq%!UPSILON#PSILIfDASIAfPSILI*VARIApDASIA*VARIApPSILI*OXIAoDASIA*OXIAoPSILI*PERISPOMENIvDASIA*PERISPOMENI",
    "1f59:bv$!UPSILON#DASIA;1f5b:a*VARIA;1f5d:fOXIA;1f5f:ePERISPOMENIbx%!OMEGA#PSILIfDASIAfPSILI*VARIApDASIA*VARIA",
    "pPSILI*OXIAoDASIA*OXIAoPSILI*PERISPOMENIvDASIA*PERISPOMENIbt$!OMEGA#PSILIfDASIAfPSILI*VARIApDASIA*VARIA",
    "pPSILI*OXIAoDASIA*OXIAoPSILI*PERISPOMENIvDASIA*PERISPOMENIbv%!ALPHA#VARIAfOXIApEPSILON#VARIAfOXIAqTA#VARIAfOXIA",
    "nIOTA#VARIAfOXIAoOMICRON#VARIAfOXIArUPSILON#VARIAfOXIArOMEGA#VARIAfOXIA;1f80:pALPHA#PSILI*YPOGEGRAMMENI",
    "xDASIA*YPOGEGRAMMENIxPSILI*VARIA*YPOGEGRAMMENIbhDASIA*VARIA*YPOGEGRAMMENIbhPSILI*OXIA*YPOGEGRAMMENI",
    "bgDASIA*OXIA*YPOGEGRAMMENIbgPSILI*PERISPOMENI*YPOGEGRAMMENIbnDASIA*PERISPOMENI*YPOGEGRAMMENI",
    "cl$!ALPHA#PSILI*PROSGEGRAMMENIyDASIA*PROSGEGRAMMENIyPSILI*VARIA*PROSGEGRAMMENIbiDASIA*VARIA*PROSGEGRAMMENI",
    "biPSILI*OXIA*PROSGEGRAMMENIbhDASIA*OXIA*PROSGEGRAMMENIbhPSILI*PERISPOMENI*PROSGEGRAMMENI",
    "boDASIA*PERISPOMENI*PROSGEGRAMMENIco%!ETA#PSILI*YPOGEGRAMMENIxDASIA*YPOGEGRAMMENIxPSILI*VARIA*YPOGEGRAMMENI",
    "bhDASIA*VARIA*YPOGEGRAMMENIbhPSILI*OXIA*YPOGEGRAMMENIbgDASIA*OXIA*YPOGEGRAMMENI",
    "bgPSILI*PERISPOMENI*YPOGEGRAMMENIbnDASIA*PERISPOMENI*YPOGEGRAMMENIcj$!ETA#PSILI*PROSGEGRAMMENI",
    "yDASIA*PROSGEGRAMMENIyPSILI*VARIA*PROSGEGRAMMENIbiDASIA*VARIA*PROSGEGRAMMENIbiPSILI*OXIA*PROSGEGRAMMENI",
    "bhDASIA*OXIA*PROSGEGRAMMENIbhPSILI*PERISPOMENI*PROSGEGRAMMENIboDASIA*PERISPOMENI*PROSGEGRAMMENI",
    "cm%!OMEGA#PSILI*YPOGEGRAMMENIxDASIA*YPOGEGRAMMENIxPSILI*VARIA*YPOGEGRAMMENIbhDASIA*VARIA*YPOGEGRAMMENI",
    "bhPSILI*OXIA*YPOGEGRAMMENIbgDASIA*OXIA*YPOGEGRAMMENIbgPSILI*PERISPOMENI*YPOGEGRAMMENI",
    "bnDASIA*PERISPOMENI*YPOGEGRAMMENIcl$!OMEGA#PSILI*PROSGEGRAMMENIyDASIA*PROSGEGRAMMENIyPSILI*VARIA*PROSGEGRAMMENI",
    "biDASIA*VARIA*PROSGEGRAMMENIbiPSILI*OXIA*PROSGEGRAMMENIbhDASIA*OXIA*PROSGEGRAMMENI",
    "bhPSILI*PERISPOMENI*PROSGEGRAMMENIboDASIA*PERISPOMENI*PROSGEGRAMMENIco%!ALPHA#VRACHYgMACRONgVARIA*YPOGEGRAMMENI",
    "xYPOGEGRAMMENInOXIA*YPOGEGRAMMENI;1fb6:wPERISPOMENIa*YPOGEGRAMMENIcb$!ALPHA#VRACHYgMACRONgVARIAfOXIA",
    "ePROSGEGRAMMENIboKORONIShPROSGEGRAMMENInSILIeERISPOMENIlDIALYTIKA*PERISPOMENIz%!ETA#VARIA*YPOGEGRAMMENI",
    "xYPOGEGRAMMENInOXIA*YPOGEGRAMMENI;1fc6:wPERISPOMENIa*YPOGEGRAMMENIbz$!EPSILON#VARIAfOXIAqTA#VARIAfOXIA",
    "ePROSGEGRAMMENIbmPSILI*VARIAfOXIAePERISPOMENIv%!IOTA#VRACHYgMACRONgDIALYTIKA*VARIAfOXIA;1fd6:sPERISPOMENI",
    "lDIALYTIKA*PERISPOMENIbw$!IOTA#VRACHYgMACRONgVARIAfOXIA;1fdd:bdDASIA*VARIAfOXIAePERISPOMENIv%!UPSILON#VRACHY",
    "gMACRONgDIALYTIKA*VARIAfOXIAbfRHO#PSILIfDASIAoUPSILON#PERISPOMENIlDIALYTIKA*PERISPOMENIbz$!UPSILON#VRACHY",
    "gMACRONgVARIAfOXIArRHO#DASIAbdDIALYTIKA*VARIAfOXIAsVARIA;1ff2:f%!OMEGA#VARIA*YPOGEGRAMMENIxYPOGEGRAMMENI",
    "nOXIA*YPOGEGRAMMENI;1ff6:wPERISPOMENIa*YPOGEGRAMMENIcb$!OMICRON#VARIAfOXIApEGA#VARIAfOXIAePROSGEGRAMMENIboOXIA",
    "eDASIA;2000:lEN QUADgM QUADgN SPACEhM SPACEiTHREE-PER-EM SPACEsFOUR-PER-EM SPACErSIX-PER-EM SPACEqFIGURE SPACE",
    "mPUNCTUATION SPACErTHIN SPACEkHAIR SPACEkZERO WIDTH SPACEfNON-JOINERkJOINERr=-TO-)|s)-TO-=|sHYPHEN",
    "gNON-BREAKING HYPHENtFIGURE DASHlEN DASHgM DASH;2016:h> _ LINEnLOW LINEp= SINGLE QUOTATION|",
    "ba) SINGLE QUOTATION|bbSINGLE LOW-9 QUOTATION|uHIGH-REVERSED-9 QUOTATION|bl= > QUOTATION|ba) > QUOTATION|",
    "bb> LOW-9 QUOTATION|uHIGH-REVERSED-9 QUOTATION|bkAGGERfOUBLE DAGGERnBULLETgTRIANGULAR BULLETrONE DOT LEADER",
    "2027:oHYPHENATION POINTrLINE SEPARATORoPARAGRAPH SEPARATORt=-TO-) EMBEDDINGx)-TO-= EMBEDDING",
    "xPOP DIRECTIONAL(ATTINGba=-TO-) OVERRIDEw)-TO-= OVERRIDEwNARROW NO-BREAK SPACEvPER MILLE.kTEN THOUSAND.uRIME",
    "f> PRIME;2038:mCARETfSINGLE =-POINTING ANGLE QUOTATION|bi)-POINTING ANGLE QUOTATION|bqREFERENCE|o> EXCLAMATION|",
    "xINTERROBANGlOVERLINEiUNDERTIEiCHARACTER TIEmARET INSERTION POINTvASTERISMiHYPHEN BULLETnFRACTION SLASH",
    "o= SQUARE BRACKET#QUILLbe) SQUARE BRACKET#QUILLbf> QUESTION|uQUESTION EXCLAMATION|zEXCLAMATION QUESTION|",
    "zTIRONIAN. ET;204e:qLOW ASTERISK;2050:mCLOSE UP;2052:hOMMERCIAL MINUS.vSWUNG DASHkINVERTED UNDERTIE",
    "rFLOWER PUNCTUATION|;2057:xQUADRUPLE PRIMEpFOUR DOT PUNCTUATIONtIVE DOT PUNCTUATION;205b:tOUR DOT|nDOTTED CROSS",
    "mTRICOLONi_ FOUR DOTS;2060:sWORD JOINERlFUNCTION APPLICATIONuINVISIBLE TIMESfSEPARATORjPLUS",
    "2066:o=-TO-) ISOLATEv)-TO-= ISOLATEvFIRST STRONG ISOLATEuPOP DIRECTIONAL ISOLATExINHIBIT SYMMETRIC SWAPPING",
    "baACTIVATE SYMMETRIC SWAPPINGbbINHIBIT ARABIC( SHAPINGbbACTIVATE ARABIC( SHAPINGbcNATIONAL DIGIT SHAPES",
    "uOMINAL DIGIT SHAPESuSUPERSCRIPT ZEROeLATIN %!I;2074:uFOURdIVEeSIXcEVENfEIGHTfNINEePLUS.jMINUSfEQUALS.",
    "l= PARENTHESISq) PARENTHESISrLATIN %!N;20a0:bgEURO-CURRENCY.sCOLON.jRUZEIRO.nFRENCH FRANC.rLIRA.jMILL.jNAIRA.",
    "kPESETA.lRUPEE.kWON.;20ab:iDONG.jEURO.jKIP.iTUGRIK.lDRACHMA.mGERMAN PENNY.rPESO.jGUARANI.mAUSTRAL.mHRYVNIA.",
    "mCEDI.jLIVRE TOURNOIS.tSPESMILO.nTENGE.kINDIAN RUPEE.rTURKISH LIRA.rNORDIC|.qMANAT.kRUBLE.kLARI.jBITCOIN.mSOM.",
    "20d0:iCOMBINING = HARPOON+s) HARPOON+tLONG _ LINE OVERLAYbaSHORT _ LINE OVERLAYbbANTICLOCKWISE&+zCLOCKWISE&+",
    "v=&+q)&+pNG OVERLAYmCLOCKWISE RING OVERLAYwANTICLOCKWISE RING OVERLAYbaTHREE DOTS+qFOUR DOTS+pENCLOSING CIRCLE",
    "gSQUAREgDIAMONDhCIRCLE BACKSLASHba= )&+wENCLOSING SCREENgKEYCAPgUPWARD POINTING@biREVERSE SOLIDUS OVERLAY",
    "x> _ STROKE OVERLAYbeANNUITY~oTRIPLE UNDERDOTpWIDE BRIDGE+r=,& OVERLAYwONG > SOLIDUS OVERLAY",
    "bb), HARPOON#BARB DOWN,bm=, HARPOON#BARB DOWN,bh&?q)&?rASTERISK+;2100:yACCOUNT OFjDDRESSED TO THE SUBJECT",
    "2103:yDEGREE CELSIUSoCENTRE LINE~rARE OFfDA UNAiEULER CONSTANToSCRUPLEhDEGREE FAHRENHEIT;210c:rBLACK-LETTER $ H",
    "210e:wPLANCK CONSTANTa OVER TWO PI;2111:bbBLACK-LETTER $ I;2114:wL B BAR~;2116:oNUMERO.lSOUND RECORDING COPY)",
    "211c:zBLACK-LETTER $ R;211e:wPRESCRIPTION TAKErRESPONSEiSERVICE|mTELEPHONE.nRADE|.pVERSICLE;2125:iOUNCE.jHM.",
    "iINVERTED OHM.rBLACK-LETTER $ Z;212a:wKELVIN.lANGSTROM.;212d:nBLACK-LETTER $ CwESTIMATED~;2135:qALEF~lBET~",
    "kGIMEL~mDALET~mINFORMATION SOURCEsROTATED $ QrFACSIMILE.;214a:oPROPERTY LINE;214c:mER.iAKTIESELSKAB",
    "2150:mVULGAR FRACTION ONE SEVENTHhNINTHfTENTHeHIRDjTWO THIRDSkONE FIFTHjTWO FIFTHSjHREE FIFTHSmFOUR FIFTHS",
    "lONE SIXTHjFIVE SIXTHSlONE EIGHTHkTHREE EIGHTHSnFIVE EIGHTHSmSEVEN EIGHTHSbdFRACTION NUMERATOR ONE",
    "2184:wLATIN %!REVERSED C;2189:bdVULGAR FRACTION ZERO THIRDS;21b7:bbCLOCKWISE TOP SEMICIRCLE&;21bb:uOPEN CIRCLE&",
    "21f4:bb)&#% CIRCLE;2200:bdFOR ALLhCOMPLEMENTkPARTIAL DIFFERENTIALuTHERE EXISTSgDOES NOT EXIST;2206:uINCREMENT",
    "jNABLAfELEMENT OFkNOT AN ELEMENT OFr% ELEMENT OFqCONTAINS AS MEMBERsDOES NOT CONTAIN AS MEMBER",
    "ba% CONTAINS AS MEMBERyEND OF PROOF;2212:mMINUS.f-OR-PLUS.sDOT PLUShIVISION SLASHoSET MINUSjASTERISK OPERATOR",
    "rRING OPERATORnBULLET OPERATOR;221b:pCUBE ROOTjFOURTH ROOTlPROPORTIONAL TOpINFINITYi) ANGLElANGLE",
    "2222:fSPHERICAL ANGLEpDIVIDESgOES NOT DIVIDEpPARALLEL TOlNOT PARALLEL TO;2229:pINTERSECTIONmUNIONfINTEGRAL",
    "i> INTEGRAL;222e:pCONTOUR INTEGRALqSURFACE INTEGRALqVOLUME INTEGRALpCLOCKWISE INTEGRALiCONTOUR INTEGRAL",
    "2234:baTHEREFOREjBECAUSEhRATIOfPROPORTIONkDOT MINUSjEXCESSgGEOMETRIC PROPORTIONuHOMOTHETICkTILDE OPERATOR",
    "223e:oINVERTED LAZY SpSINE WAVEjWREATH PRODUCToNOT TILDEjMINUS TILDElASYMPTOTICALLY EQUAL TO",
    "xNOT ASYMPTOTICALLY EQUAL TObbAPPROXIMATELY EQUAL TOiBUT NOT ACTUALLY EQUAL TO",
    "bnNEITHER APPROXIMATELY NOR ACTUALLY EQUAL TObrALMOST EQUAL TOpNOT ALMOST EQUAL TOtALMOST EQUAL OR EQUAL TO",
    "224c:wL EQUAL TOmEQUIVALENT TOnGEOMETRICALLY EQUIVALENT TObbDIFFERENCE BETWEENsAPPROACHES THE LIMIT",
    "uGEOMETRICALLY EQUAL TOwAPPROXIMATELY EQUAL TO OR THE IMAGE OFbmIMAGE OF OR APPROXIMATELY EQUAL TO",
    "biCOLON EQUALSmEQUALS COLONmRING IN EQUAL TOlEQUAL TOnCORRESPONDS TOoESTIMATESiQUIANGULAR TOoSTAR EQUALS",
    "lDELTA EQUAL TOoEQUAL TO BY DEFINITION;225f:wQUESTIONED EQUAL TOtNOT EQUAL TOmIDENTICAL TOmNOT IDENTICAL TO",
    "qSTRICTLY EQUIVALENT TOwLESS-THAN OR EQUAL TOvGREATER-THAN OR EQUAL TOyLESS-THAN OVER EQUAL TO",
    "xGREATER-THAN OVER EQUAL TObaLESS-THAN BUT NOT EQUAL TObaGREATER-THAN BUT NOT EQUAL TObdMUCH LESS-THAN",
    "jGREATER-THANrBETWEENhNOT EQUIVALENT TOnLESS-THANjGREATER-THANpEITHER LESS-THAN NOR EQUAL TO",
    "wGREATER-THAN NOR EQUAL TObhLESS-THAN OR EQUIVALENT TObaGREATER-THAN OR EQUIVALENT TO",
    "bdNEITHER LESS-THAN NOR EQUIVALENT TObbGREATER-THAN NOR EQUIVALENT TObmLESS-THAN OR GREATER-THAN",
    "zGREATER-THAN OR LESS-THANzNEITHER LESS-THAN NOR GREATER-THANbaGREATER-THAN NOR LESS-THANbiPRECEDESiSUCCEEDS",
    "iPRECEDES OR EQUAL TOuSUCCEEDS OR EQUAL TOuPRECEDES OR EQUIVALENT TOzSUCCEEDS OR EQUIVALENT TOzDOES NOT PRECEDE",
    "hSUCCEED;2284:qNOT A SUBSET OFhPERSET OF;2288:qEITHER A SUBSET OF NOR EQUAL TOuPERSET OF NOR EQUAL TO",
    "228c:biMULTISETa MULTIPLICATIONoUNION;22a2:o) TACKk= TACKjDOWN TACK;22a6:jASSERTIONjMODELSgTRUEeFORCES",
    "22ab:g> _ BAR > ) TURNSTILEboES NOT PROVEoNOT TRUEiDOES NOT FORCEoNEGATED > _ BAR > ) TURNSTILE",
    "byPRECEDES UNDER RELATIONxSUCCEEDS UNDER RELATIONxNORMAL SUBGROUP OFsCONTAINS AS NORMAL SUBGROUP",
    "bbNORMAL SUBGROUP OF OR EQUAL TObeCONTAINS AS NORMAL SUBGROUP OR EQUAL TObnORIGINAL OFlIMAGE OFiMULTIMAP",
    "iHERMITIAN CONJUGATE MATRIXbaINTERCALATElXORdNANDdORd) ANGLE#ARCoTRIANGLE;22c4:oDIAMOND OPERATORpOT OPERATOR",
    "mSTAR OPERATORnDIVISION TIMESoBOWTIEg= NORMAL FACTOR SEMIDIRECT PRODUCTbl) NORMAL FACTOR SEMIDIRECT PRODUCT",
    "bm= SEMIDIRECT PRODUCTx) SEMIDIRECT PRODUCT;22ce:yCURLY LOGICAL ORcANDr> SUBSETePERSETiINTERSECTIONmUNION",
    "mPITCHFORKjEQUAL*PARALLEL TOvLESS-THAN#DOTsGREATER-THAN#DOT;22da:vLESS-THAN EQUAL TO OR GREATER-THAN",
    "biGREATER-THAN EQUAL TO OR LESS-THANbiEQUAL TO OR LESS-THANjGREATER-THANmPRECEDESiSUCCEEDS",
    "uDOES NOT PRECEDE OR EQUALqSUCCEED OR EQUALzNOT SQUARE IMAGE OF OR EQUAL TOuORIGINAL OF OR EQUAL TO",
    "22e6:biLESS-THAN BUT NOT EQUIVALENT TObfGREATER-THAN BUT NOT EQUIVALENT TObiPRECEDES BUT NOT EQUIVALENT TO",
    "beSUCCEEDS BUT NOT EQUIVALENT TObeNOT NORMAL SUBGROUP OFwDOES NOT CONTAIN AS NORMAL SUBGROUP",
    "bjNOT NORMAL SUBGROUP OF OR EQUAL TObiDOES NOT CONTAIN AS NORMAL SUBGROUP OR EQUALbs_ ELLIPSIS",
    "rMIDLINE HORIZONTAL ELLIPSIS;22f1:bbDOWN ) DIAGONAL ELLIPSISbcELEMENT OF#LONG HORIZONTAL STROKE",
    "w_ BAR AT END OF HORIZONTAL STROKEce% ELEMENT OF#_ BAR AT END OF HORIZONTAL STROKEckELEMENT OF#DOT+jOVERBAR",
    "x% ELEMENT OF#OVERBARbdELEMENT OF#UNDERBARiTWO HORIZONTAL STROKESbmCONTAINS#LONG HORIZONTAL STROKE",
    "w_ BAR AT END OF HORIZONTAL STROKEcc% CONTAINS#_ BAR AT END OF HORIZONTAL STROKEciCONTAINS#OVERBAR",
    "v% CONTAINS#OVERBAR;2300:bbDIAMETER.nELECTRIC&oHOUSE;2304:fDOWN&HEADoPROJECTIVEjERSPECTIVElWAVY LINEj= CEILING",
    "m) CEILINGn= FLOORk) FLOOR;2312:lARCdSEGMENTfCTORgTELEPHONE RECORDERsPOSITION INDICATORsVIEWDATA SQUARE",
    "pPLACE OF INTEREST.;231a:wWATCHfHOURGLASS;2322:jFROWNfSMILE;2325:fOPTION KEYkERASE TO THE )",
    "sX IN A RECTANGLE BOXuKEYBOARDi=-POINTING ANGLE BRACKETbb)-POINTING ANGLE BRACKETbcERASE TO THE =rBENZENE RING",
    "mCYLINDRICITYmALL AROUND-PROFILEsSYMMETRYiTOTAL RUNOUTmDIMENSION ORIGINqCONICAL TAPERnSLOPEfCOUNTERBOREeSINK",
    "237b:lNOT CHECK|o) ANGLE#DOWN, ZIGZAG&bnSHOULDERED OPEN BOXtBELL~l_ LINE#MIDDLE DOTbdINSERTION~",
    "qCONTINUOUS UNDERLINE~bbDISCONTINUOUS UNDERLINE~beEMPHASIS~pCOMPOSITION~;2386:sENTER~mALTERNATIVE KEY~wHELM~",
    "238b:lBROKEN CIRCLE#NORTHWEST&biUNDO~lMONOSTABLE~rHYSTERESIS~rOPEN-CIRCUIT-OUTPUT H-TYPE~nL-TYPE~",
    "bhPASSIVE-PULL-DOWN-OUTPUT~sUP-OUTPUT~bdDIRECT CURRENT~( TWObeSOFTWARE-FUNCTION~;2396:yDECIMAL SEPARATOR KEY~",
    "bcPREVIOUS PAGEnNEXT PAGEjPRINT SCREEN~tCLEAR SCREEN~t= PARENTHESIS UPPER HOOKkEXTENSIONjLOWER HOOK",
    "bb) PARENTHESIS UPPER HOOKkEXTENSIONjLOWER HOOKbc= SQUARE BRACKET UPPER CORNERmEXTENSIONjLOWER CORNER",
    "bg) SQUARE BRACKET UPPER CORNERmEXTENSIONjLOWER CORNERbh= CURLY BRACKET UPPER HOOKkMIDDLE PIECEmLOWER HOOK",
    "bdCURLY BRACKET EXTENSIONx) CURLY BRACKET UPPER HOOKkMIDDLE PIECEmLOWER HOOKbeINTEGRAL EXTENSION",
    "23b2:sSUMMATION TOPdBOTTOM;23b7:qRADICAL~ BOTTOMv= _ BOX LINEw) _ BOX LINE;23ce:wETURN~nEJECT~m_ LINE EXTENSION",
    "xMETRICAL BREVEfLONG OVER SHORTpSHORT OVER LONGpLONG OVER TWO SHORTSuTWO SHORTS OVER LONGjJOINEDqRISEME",
    "gETRASEMEjPENTASEMEsEARTH GROUNDmFUSE;23e3:eBENZENE RING#CIRCLEySTRAIGHTNESSmFLATNESSiAC CURRENT",
    "kELECTRICAL INTERSECTIONxDECIMAL EXPONENT~;23f0:xALARM CLOCKlSTOPWATCHjTIMER CLOCKlHOURGLASS#FLOWING SAND",
    "23f8:bb> _ BAR;23fb:tPOWER~gON-OFF~l~jSLEEP~sOBSERVER EYE~;2422:tBLANK~;2440:mOCR HOOKeCHAIRfFORKeINVERTED FORK",
    "nBELT BUCKLEkOW TIEgRANCH BANK IDENTIFICATIONbaAMOUNT OF CHECKpDASHeCUSTOMER ACCOUNT NUMBERx> BACKSLASH",
    "2488:uDIGIT ONE FULL STOPnTWO FULL STOPmHREE FULL STOPpFOUR FULL STOPnIVE FULL STOPoSIX FULL STOP",
    "mEVEN FULL STOPpEIGHT FULL STOPpNINE FULL STOPuNUMBER TEN FULL STOPnELEVEN FULL STOPqTWELVE FULL STOP",
    "pHIRTEEN FULL STOPsFOURTEEN FULL STOPrIFTEEN FULL STOPrSIXTEEN FULL STOPqEVENTEEN FULL STOPtEIGHTEEN FULL STOP",
    "sNINETEEN FULL STOPsTWENTY FULL STOP;24f5:x> CIRCLED DIGIT ONEdTWOcHREEfFOURdIVEeSIXcEVENfEIGHTfNINEkNUMBER TEN",
    "2588:zFULL BLOCKk= SEVEN EIGHTHS BLOCKtTHREE QUARTERS BLOCKuFIVE EIGHTHS BLOCK;258d:sTHREE EIGHTHS BLOCK",
    "tONE QUARTER BLOCKnEIGHTH BLOCKv) HALF BLOCK;2593:qDARK SHADE;2595:k) ONE EIGHTH BLOCKwQUADRANT LOWER =e)",
    "lUPPER =a*LOWER =*LOWER )u)lUPPER )*LOWER =e)bk)a*LOWER =a*LOWER );25c9:bzFISHEYEhLOZENGE;25cc:hDOTTED CIRCLE",
    "25ce:nBULLSEYE;25d7:i) HALF BLACK CIRCLExINVERSE BULLETgWHITE CIRCLE;25ed:uUP-POINTING@#= HALF BLACK",
    "p) HALF BLACK;2601:bqCLOUDfUMBRELLAiSNOWMANhCOMET;2607:fLIGHTNINGjTHUNDERSTORMmSUNdASCENDING NODE",
    "oDESCENDING NODEpCONJUNCTIONlOPPOSITION;2610:kBALLOT BOXa#CHECKfXrSALTIREhUMBRELLA#RAIN DROPSyHOT BEVERAGE",
    "2618:mSHAMROCK;2620:hKULL*CROSSBONESuCAUTION.mRADIOACTIVE.qBIOHAZARD.oCADUCEUSiANKHeORTHODOX CROSSoCHI RHO",
    "gROSS OF LORRAINEiJERUSALEMsSTAR*CRESCENTrFARSI~mADI SHAKTIkHAMMER*SICKLErPEACE~mYIN YANGiTRIGRAM FOR HEAVEN",
    "gLAKEeFIREeTHUNDERhWINDdATERfMOUNTAINiEARTHrWHEEL OF DHARMA;263d:pFIRST QUARTER MOONsLAST QUARTER MOONrMERCURY",
    "hFEMALE.lEARTHfMALE.jJUPITERhSATURNgURANUSgNEPTUNEhPLUTOfARIESfTAURUSgGEMINIgCANCERgLEOdVIRGOfLIBRAfSCORPIUS",
    "hAGITTARIUSlCAPRICORNjAQUARIUSiPISCES;2668:gHOT SPRINGSlQUARTER NOTEmEIGHTH NOTElBEAMED EIGHTH NOTES",
    "mSIXTEENTH NOTESwMUSIC FLAT.jNATURAL.mSHARP.qWEST SYRIAC CROSSrEAST SYRIAC CROSSrUNIVERSAL RECYCLING~",
    "baRECYCLING~ FOR TYPE-1 PLASTICSk2 PLASTICSk3 PLASTICSk4 PLASTICSk5 PLASTICSk6 PLASTICSk7 PLASTICS",
    "pGENERIC MATERIALS;267c:bgED PAPER~vPARTIALLY-RECYCLED PAPER~beERMANENT PAPER.uWHEELCHAIR~rDIE FACE-1b2b3b4b5b6",
    "268a:kMONOGRAM FOR YANGdINqDIGRAM FOR GREATER YANGmLESSER YINcANGlGREATER YIN;2692:wHAMMER*PICKpANCHOR",
    "gCROSSED SWORDSoSTAFF OF AESCULAPIUStCALESgALEMBIChFLOWERgGEAReSTAFF OF HERMESpATOM~lFLEUR-DE-LIS",
    "mOUTLINED WHITE STAR;26a0:tWARNING.mHIGH VOLTAGE.r>D FEMALE.lMALE.rINTERLOCKED FEMALE*MALE.bgMALE*FEMALE.",
    "pWITH STROKE.eAND MALE*FEMALE.bp_ MALE#STROKE.;26ad:beMARRIAGE~pDIVORCE~oUNMARRIED PARTNERSHIP~bcCOFFIN",
    "gFUNERAL URNlNEUTERgCERESfPALLASgJUNOeVESTAfCHIRON;26b9:gSEXTILEfMISEXTILElQUINCUNXiSESQUIQUADRATEnOCCER BALL",
    "lBASEBALL;26c4:iSNOWMAN WITHOUT SNOWtUN BEHIND CLOUDqRAIN;26c8:eTHUNDER CLOUD*RAIN;26cc:wCROSSING LANES",
    "oDISABLED CARmOPHIUCHUSjPICKeCAR SLIDINGlHELMET#WHITE CROSS;26d3:xCHAINSgNO ENTRY",
    "iALTERNATE ONE-WAY = WAY TRAFFIC;26da:biDRIVE SLOW.;26dc:p= CLOSED ENTRY",
    "26de:rFALLING DIAGONAL IN WHITE CIRCLE IN BLACK SQUARE;26e0:bwRESTRICTED = ENTRY-1b2xASTRONOMICAL~ FOR URANUS",
    "26e4:bePENTAGRAMj)-HANDED INTERLACED PENTAGRAMbh=-HANDED INTERLACED PENTAGRAMbgINVERTED PENTAGRAM",
    "26e9:sSHINTO SHRINEnCHURCHfASTLEgHISTORIC SITEnGEAR WITHOUT HUBh HANDLESrMAP~ FOR LIGHTHOUSEyOUNTAIN",
    "iUMBRELLA ON GROUNDsFOUNTAINhLAG IN HOLElERRYfSAILBOAT;26f7:hKIERfICE SKATE;26fa:jTENTeJAPANESE BANK~",
    "uHEADSTONE GRAVEYARD~baFUEL PUMPjCUP ON BLACK SQUARE;2706:tTELEPHONE LOCATION.wAPE DRIVEkAIRPLANEiENVELOPE",
    "270c:iVICTORY HANDmWRITING HAND;270f:mPENCIL;2713:gCHECK|;2715:kMULTIPLICATION X;2717:qBALLOT X",
    "2719:iOUTLINED GREEK CROSS;271e:uSHADOWED WHITE LATIN CROSSbaOUTLINED LATIN CROSSuMALTESE CROSSnSTAR OF DAVID",
    "nFOUR TEARDROP-SPOKED ASTERISKyBALLOON-SPOKED ASTERISK;2725:xCLUB-SPOKED ASTERISK;2728:zSPARKLES",
    "hTRESS OUTLINED WHITE STAR;272d:baOUTLINED BLACK STAR;272f:tPINWHEEL STARnSHADOWED WHITE STAR",
    "2733:tEIGHT SPOKED ASTERISKpPOINTED BLACK STARkPINWHEEL STARbbSIX POINTED BLACK STAR",
    "wEIGHT POINTED RECTILINEAR BLACK STAR;2739:bkTWELVE POINTED BLACK STARzSIXTEEN POINTED ASTERISK",
    "yTEARDROP-SPOKED ASTERISK;273e:ySIX PETALLED BLACK*WHITE FLORETTE;2741:blEIGHT PETALLED OUTLINED BLACK FLORETTE",
    "2744:bmSNOWFLAKEjTIGHT TRIFOLIATE SNOWFLAKE;2747:baSPARKLE;2749:hBALLOON-SPOKED ASTERISK",
    "xEIGHT TEARDROP-SPOKED PROPELLER ASTERISK;274c:boCROSS|kSHADOWED WHITE CIRCLE",
    "2761:vCURVED STEM PARAGRAPH. ORNAMENT;2765:bjROTATED HEAVY BLACK HEART BULLETbgFLORAL HEART",
    "mROTATED FLORAL HEART BULLET;279b:bbDRAFTING POINT ),&;279d:bfTRIANGLE-HEADED ),&;279f:bgDASHED@-HEADED ),&",
    "27a2:bnTHREE-D TOP-LIGHTED ),&HEADbgBOTTOM-LIGHTED ),&HEAD;27a7:brSQUAT BLACK ),&;27a9:bc)-SHADED WHITE ),&",
    "bj=-SHADED WHITE ),&biBACK-TILTED SHADOWED WHITE ),&brFRONT-TILTED SHADOWED WHITE ),&",
    "27af:bsNOTCHED LOWER )-SHADOWED WHITE ),&bzCURLY LOOPkNOTCHED UPPER )-SHADOWED WHITE ),&",
    "27b3:bzWHITE-FEATHERED ),&bgBLACK-FEATHERED SOUTH EAST&q),&qNORTH EAST&;27ba:bgTEARDROP-BARBED ),&",
    "27bc:bgWEDGE-TAILED ),&;27be:bdOPEN-OUTLINED ),&be> CURLY LOOP;27c2:rPERPENDICULAR",
    "27c5:n= S-SHAPED BAG DELIMITERbb) S-SHAPED BAG DELIMITERbcOR#DOT INSIDEsREVERSE SOLIDUS PRECEDING SUBSET",
    "27ca:bg_ BAR#HORIZONTAL STROKE;27d1:bjAND#DOTmELEMENT OF OPENING UP,;27d5:ba= OUTER JOINp) OUTER JOIN",
    "qFULL OUTER JOIN;27da:p=*) > TURNSTILEqTACKoMULTIMAP;27e0:mOZENGE DIVIDED BY HORIZONTAL RULE",
    "27f3:biCLOCKWISE GAPPED CIRCLE&bd)&#CIRCLED PLUS;292b:bbSING DIAGONAL CROSSING FALLING DIAGONAL",
    "bpFALLING DIAGONAL CROSSING RISING DIAGONAL;292f:pNORTH EAST&bqRISING DIAGONAL CROSSING SOUTH EAST&",
    "2933:bpWAVE& POINTING DIRECTLY )biARROW POINTING ), THEN CURVING UP,hDOWN,bhDOWN, THEN CURVING =,j),",
    "bw)-SIDE ARC CLOCKWISE&be=-SIDE ARC ANTICLOCKWISE&;2941:bhCLOCKWISE CLOSED CIRCLE&;2944:bdSHORT ),&+ =,&",
    "294a:bs= BARB UP ) BARB DOWN HARPOONbaDOWN ) BARB UP HARPOON;294e:baUP ) BARB UP HARPOON",
    "2950:yDOWN ) BARB DOWN HARPOON;2970:bm) >&#ROUNDED HEADbkEQUALS.+ ),&biTILDE OPERATOR+ ),&",
    "2976:blLESS-THAN+ =,&;2978:bfGREATER-THAN+ ),&;297c:bj= FISH TAILo) FISH TAIL;297f:pDOWN FISH TAIL",
    "2983:o= WHITE CURLY BRACKETy) WHITE CURLY BRACKETz= WHITE PARENTHESISw) WHITE PARENTHESIS",
    "298b:x= SQUARE BRACKET#UNDERBARbh) SQUARE BRACKET#UNDERBARbi= SQUARE BRACKET#TICK IN TOP CORNER",
    "br) SQUARE BRACKET#TICK IN BOTTOM CORNERbv= SQUARE BRACKET#TICK IN BOTTOM CORNER",
    "bu) SQUARE BRACKET#TICK IN TOP CORNERbs= ANGLE BRACKET#DOTbb) ANGLE BRACKET#DOTbc= ARC LESS-THAN BRACKET",
    "ba) ARC GREATER-THAN BRACKETbe> = ARC GREATER-THAN BRACKETbd) ARC LESS-THAN BRACKET",
    "bi= BLACK TORTOISE SHELL BRACKETbh) BLACK TORTOISE SHELL BRACKETbiDOTTED FENCEm_ ZIGZAG LINE",
    "299c:u) ANGLE VARIANT#SQUARE;299e:bfANGLE#S INSIDEsCUTE ANGLElSPHERICAL ANGLE OPENING =eUP",
    "29a4:baANGLE#UNDERBAR;29a6:tOBLIQUE ANGLE OPENING UPcDOWN;29ca:baTRIANGLE#DOT+jUNDERBARwS IN@",
    "nTRIANGLE#SERIFS AT BOTTOMbe)@+ =@bi=@ BESIDE _ BARbh_ BAR BESIDE )@biBOWTIE#= HALF BLACKp) HALF BLACK",
    "29d4:bcTIMES#= HALF BLACKp) HALF BLACK;29d8:bb= WIGGLY FENCEr) WIGGLY FENCEs= > WIGGLY FENCEy) > WIGGLY FENCE",
    "zINCOMPLETE INFINITYtTIE OVER INFINITYrINFINITY NEGATED#_ BARbi>-ENDED MULTIMAP;29e1:vINCREASES AS",
    "mSHUFFLE PRODUCTpEQUALS.*SLANTED PARALLELa#TILDE+bxIDENTICAL TO*SLANTED PARALLELbhGLEICH STARKmTHERMODYNAMIC",
    "nDOWN-POINTING@#= HALF BLACKp) HALF BLACK;29ee:bsERROR-BARRED WHITE SQUAREmBLACK SQUAREmWHITE DIAMOND",
    "nBLACK DIAMONDnWHITE CIRCLEmBLACK CIRCLEzRULE-DELAYEDlEVERSE SOLIDUS OPERATORySOLIDUS#OVERBAR",
    "uREVERSE SOLIDUS#HORIZONTAL STROKEbmBIG SOLIDUShREVERSE SOLIDUSt> PLUS;29fc:l=-POINTING CURVED ANGLE BRACKET",
    "bi)-POINTING CURVED ANGLE BRACKETbjTINYeMINY;2a0a:dODULO TWO SUMoSUMMATION#INTEGRALxQUADRUPLE INTEGRAL OPERATOR",
    "bbFINITE PART INTEGRALuINTEGRAL#> STROKEsAVERAGE#SLASHbbCIRCULATION FUNCTION",
    "2a12:uLINE INTEGRATION#RECTANGULAR PATH AROUND POLEbcSEMICIRCULAR PATH AROUND POLEbiNOT INCLUDING THE POLE",
    "bnINTEGRAL AROUND A POINT OPERATORbgQUATERNION INTEGRAL OPERATORbcINTEGRAL#=,&#HOOKzTIMES.kINTERSECTIONmUNION",
    "fOVERBARhUNDERBARwJOIN;2a22:ePLUS.#% CIRCLE+sCIRCUMFLEX ACCENT+xTILDE+lDOT?jTILDE?lSUBSCRIPT TWOnBLACK@",
    "bdMINUS.#COMMA+lDOT?jFALLING DOTSmRISING DOTSbbPLUS. IN = HALF CIRCLEq) HALF CIRCLEbeVECTOR OR CROSS PRODUCT",
    "xMULTIPLICATION.#DOT+jUNDERBARbhSEMIDIRECT PRODUCT#BOTTOM CLOSEDbkMASH PRODUCTnMULTIPLICATION. IN = HALF CIRCLE",
    "q) HALF CIRCLE;2a37:r> CIRCLE;2a39:bkPLUS. IN@vMINUS. IN@vULTIPLICATION. IN@bfINTERIOR PRODUCT",
    "q)HAND INTERIOR PRODUCT;2a3f:baAMALGAMATION OR COPRODUCTzINTERSECTION#DOTvUNION#MINUS.kOVERBAR",
    "sINTERSECTION#OVERBARhLOGICAL ANDbdUNION#LOGICAL ORpABOVE INTERSECTIONyINTERSECTION+ UNION",
    "yUNION+ BAR+ INTERSECTIONbiINTERSECTION+ BAR+ UNIONbiUNION BESIDE*JOINED#UNION",
    "biINTERSECTION BESIDE*JOINED#INTERSECTION;2a4e:bw> SQUARE INTERSECTIONmUNION;2a53:mLOGICAL ANDdOR",
    "2a57:rSLOPING LARGE ORcAND;2a61:qMALL VEE#UNDERBAR;2a66:xEQUALS.#DOT?baIDENTICAL#DOT+;2a6a:yTILDE OPERATOR#DOT+",
    "jRISING DOTSbfSIMILAR MINUS SIMILARvCONGRUENT#DOT+yEQUALS#ASTERISKuALMOST EQUAL TO#CIRCUMFLEX ACCENT",
    "blPPROXIMATELY EQUAL OR EQUAL TObfEQUALS.+ PLUS.bbPLUS.+ EQUALS.bbEQUALS.+ TILDE OPERATORbg> COLON EQUAL",
    "2a77:sEQUALS.#TWO DOTS+*TWO DOTS?bvIVALENT#FOUR DOTS+bfLESS-THAN#CIRCLE INSIDEbcGREATER-THAN#CIRCLE INSIDE",
    "bfLESS-THAN#QUESTION|+biGREATER-THAN#QUESTION|+blLESS-THAN OR SLANTED EQUAL TO",
    "bdGREATER-THAN OR SLANTED EQUAL TObgLESS-THAN OR SLANTED EQUAL TO#DOT INSIDE",
    "btGREATER-THAN OR SLANTED EQUAL TO#DOT INSIDEbwLESS-THAN OR SLANTED EQUAL TO#DOT+",
    "bsGREATER-THAN OR SLANTED EQUAL TO#DOT+bvLESS-THAN OR SLANTED EQUAL TO#DOT+ )",
    "byGREATER-THAN OR SLANTED EQUAL TO#DOT+ =caLESS-THAN OR APPROXIMATEyGREATER-THAN OR APPROXIMATE",
    "bbLESS-THAN*SINGLE-LINE NOT EQUAL TObmGREATER-THAN*SINGLE-LINE NOT EQUAL TObpLESS-THAN*NOT APPROXIMATE",
    "bdGREATER-THAN*NOT APPROXIMATEbgLESS-THAN+ >-LINE EQUAL+ GREATER-THANcaGREATER-THAN+ >-LINE EQUAL+ LESS-THAN",
    "caLESS-THAN+ SIMILAR OR EQUALbgGREATER-THAN+ SIMILAR OR EQUALbjLESS-THAN+ SIMILAR+ GREATER-THAN",
    "bqGREATER-THAN+ SIMILAR+ LESS-THANbqLESS-THAN+ GREATER-THAN+ >-LINE EQUAL",
    "caGREATER-THAN+ LESS-THAN+ >-LINE EQUALcaLESS-THAN+ SLANTED EQUAL+ GREATER-THAN+ SLANTED EQUAL",
    "cqGREATER-THAN+ SLANTED EQUAL+ LESS-THAN+ SLANTED EQUALcqSLANTED EQUAL TO OR LESS-THANjGREATER-THAN",
    "mLESS-THAN#DOT INSIDEzGREATER-THAN#DOT INSIDEbw>-LINE EQUAL TO OR LESS-THANjGREATER-THAN",
    "ySLANTED EQUAL TO OR LESS-THANjGREATER-THANbsSIMILAR OR LESS-THANjGREATER-THANpABOVE LESS-THAN+ EQUALS.",
    "bbGREATER-THAN+ EQUALS.bs> NESTED LESS-THANjGREATER-THANmLESS-THAN#UNDERBARblGREATER-THAN OVERLAPPING LESS-THAN",
    "vBESIDE LESS-THANbdLESS-THAN CLOSED BY CURVEzGREATER-THAN CLOSED BY CURVE",
    "bcLESS-THAN CLOSED BY CURVE+ SLANTED EQUALbtGREATER-THAN CLOSED BY CURVE+ SLANTED EQUALbw%ER THANmLARGER THAN",
    "l%ER THAN OR EQUAL TOyLARGER THAN OR EQUAL TOxEQUALS.#BUMPY+bcPRECEDES+ SINGLE-LINE EQUALS.",
    "bmSUCCEEDS+ SINGLE-LINE EQUALS.bmPRECEDES+ SINGLE-LINE NOT EQUAL TObnSUCCEEDS+ SINGLE-LINE NOT EQUAL TO",
    "bnPRECEDES+ EQUALS.baSUCCEEDS+ EQUALS.baPRECEDES+ NOT EQUAL TObbSUCCEEDS+ NOT EQUAL TO",
    "bbPRECEDES+ ALMOST EQUAL TObeSUCCEEDS+ ALMOST EQUAL TObePRECEDES+ NOT ALMOST EQUAL TO",
    "biSUCCEEDS+ NOT ALMOST EQUAL TObi> PRECEDESiSUCCEEDS;2ad9:pELEMENT OF OPENING DOWN,bcPITCHFORK#TEE TOP",
    "wTRANSVERSAL INTERSECTIONyFORKINGhNONFORKINGkSHORT = TACKjDOWN TACKjUP TACKnPERPENDICULAR#S",
    "u_ BAR TRIPLE ) TURNSTILEbj> _ BAR = TURNSTILEbi_ BAR > = TURNSTILEbi> _ BAR > = TURNSTILE",
    "2ae7:bpSHORT DOWN TACK#OVERBARwUP TACK#UNDERBARnABOVE SHORT DOWN TACKbj> DOWN TACKjUP TACKhSTROKE NOT.",
    "2aee:uES NOT DIVIDE#REVERSED NEGATION SLASHbs_ LINE#CIRCLE+fBELOWbfDOWN TACK#CIRCLE?",
    "bbPARALLEL#HORIZONTAL STROKErTILDE OPERATOR;2af9:bc>-LINE SLANTED LESS-THAN OR EQUAL TO",
    "vGREATER-THAN OR EQUAL TO;2afd:bm SOLIDUS OPERATOR;2b16:wIAMOND#= HALF BLACKp) HALF BLACKqTOP HALF BLACK",
    "oBOTTOM HALF BLACKbdOTTED SQUARE;2b30:n=&#% CIRCLE;2b32:mCIRCLED PLUS;2b3f:bcWAVE& POINTING DIRECTLY =",
    "bhEQUALS.+ =,&bhREVERSE TILDE OPERATOR+ =,&;2b47:p),&;2b49:btTILDE OPERATOR+ =,&;2b4e:bkSHORT SLANTED NORTH&",
    "tBACKSLANTED SOUTH&;2b5a:bcLANTED NORTH&#HOOKED HEADbkBACKSLANTED SOUTH&#HOOKED TAIL",
    "boSLANTED NORTH&#HORIZONTAL TAILboBACKSLANTED SOUTH&#HORIZONTAL TAILbrENT& POINTING DOWN, THEN NORTH EAST",
    "btSHORT BENT& POINTING DOWN, THEN NORTH EAST;2b6e:bzCLOCKWISE@-HEADED OPEN CIRCLE&;2b7f:br_ TAB KEY",
    "2b90:qRETURN =e)mNEWLINE =e)nFOUR CORNER&S CIRCLING ANTICLOCKWISE",
    "2b98:bpTHREE-D TOP-LIGHTED =, EQUILATERAL&HEADbr)-LIGHTED UP, EQUILATERAL&HEADbrTOP-LIGHTED ), EQUILATERAL&HEAD",
    "bs=-LIGHTED DOWN, EQUILATERAL&HEAD;2bb0:caRIBBON& DOWN =e)kUP =e)i= UPh) UPi= DOWNj) DOWN",
    "2bba:xOVERLAPPING WHITE SQUAREShAND BLACK SQUARESxBLACK SQUARESzBALLOT BOX#LIGHT X;2bc9:xNEPTUNE( TWO",
    "2bcd:qROTATED LIGHT FOUR POINTED BLACK CUSP;2bcf:bdWHITE FOUR POINTED CUSP;2bd1:bfUNCERTAINTY.qGROUP|",
    "kPLUTO( TWOcHREEfFOURdIVEpTRANSPLUTOkPROSERPINAkASTRAEAhHYGIEAgPHOLUSgNESSUS;2bdf:gTRUE LIGHT MOON ARTAuCUPIDO",
    "gHADESfZEUSeKRONOSgAPOLLONgDMETOShVULCANUSiPOSEIDON;2be9:i) HALF BLACK STARvSTAR#= HALF BLACKp) HALF BLACK",
    "2bf0:baERIS( ONEdTWOnSEDNAfRUSSIAN ASTROLOGICAL~ VIGINTILEjNOVILEgQUINTILEiBINOVILEiSENTAGONiTREDECILE",
    "blEQUALS.#INFINITY?bfUNITED~nSEPARATED~q>D~oPASSED~;2bff:nHELLSCHREIBER PAUSE~;2c60:baLATIN $!L#> BAR",
    "bg%!L#> BARbe$!L#MIDDLE TILDEtP#STROKEnR#TAILba%!A#STROKEnT#DIAGONAL STROKEbj$!H#DESCENDERbf%!H#DESCENDER",
    "bd$!K#DESCENDERbf%!K#DESCENDERbd$!Z#DESCENDERbf%!Z#DESCENDERbd$!ALPHAfM#HOOKlTURNED AaLPHAbb%!V#) HOOK",
    "be$!W#HOOKba%!W#HOOKlV#CURLy$!HALF Hv%!HALF HgTAILLESS PHImE#NOTCHmTURNED R#TAILsO#LOW RING INSIDE",
    "bjLETTER % $ TURNED E;2c7e:bd$!S#SWASH TAILrZ#SWASH TAILbmCOPTIC $!ALFAt%!ALFAr$!VIDAt%!VIDAr$!GAMMAu%!GAMMA",
    "s$!DALDAu%!DALDAs$!EIEs%!EIEq$!SOUs%!SOUq$!ZATAt%!ZATAr$!HATEt%!HATEr$!THETHEv%!THETHEt$!IAUDAu%!IAUDAs$!KAPA",
    "t%!KAPAr$!LAULAu%!LAULAs$!MIr%!MIp$!NIr%!NIp$!KSIs%!KSIq$!Oq%!Oo$!PIr%!PIp$!ROr%!ROp$!SIMAt%!SIMAr$!TAUs%!TAU",
    "q$!UAr%!UAp$!FIr%!FIp$!KHIs%!KHIq$!PSIs%!PSIq$!OOUs%!OOUq$!DIALECT-P ALEFbd%!DIALECT-P ALEF",
    "2cb6:bb$!CRYPTOGRAMMIC EIEbg%!CRYPTOGRAMMIC EIEbe$!DIALECT-P KAPAbd%!DIALECT-P KAPAbb$!DIALECT-P NI",
    "bb%!DIALECT-P NIz$!CRYPTOGRAMMIC NIbf%!CRYPTOGRAMMIC NI;2cc0:bd$!SAMPIu%!SAMPIs$!CROSSED SHEIbb%!CROSSED SHEI",
    "2cc8:z$!AKHMIMIC KHEIbc%!AKHMIMIC KHEIba$!DIALECT-P HORIbd%!DIALECT-P HORI;2cd0:bb$!L-SHAPED HAba%!L-SHAPED HA",
    "2ceb:y$!CRYPTOGRAMMIC SHEIbh%!CRYPTOGRAMMIC SHEIbf$!CRYPTOGRAMMIC GANGIAbj%!CRYPTOGRAMMIC GANGIA",
    "2cf2:bh$!BOHAIRIC KHEIbc%!BOHAIRIC KHEI;2e00:bh) ANGLE SUBSTITUTION|ERtDOTTED SUBSTITUTION|ER",
    "bm= SUBSTITUTION BRACKETz) SUBSTITUTION BRACKETba= DOTTED SUBSTITUTION BRACKETbg) DOTTED SUBSTITUTION BRACKET",
    "2e08:bhDOTTED TRANSPOSITION|ERbb= TRANSPOSITION BRACKETba) TRANSPOSITION BRACKET",
    "2e0c:bb= RAISED OMISSION BRACKETbc) RAISED OMISSION BRACKETbdEDITORIAL CORONISrPARAGRAPHOSlFORKED PARAGRAPHOS",
    "2e12:sHYPODIASTOLEmDOTTED OBELOS;2e16:g)-POINTING ANGLEzUBLE OBLIQUE HYPHENvINVERTED INTERROBANGuPALM BRANCH",
    "lHYPHEN#DIAERESISvTILDE#RING+v= LOW PARAPHRASE BRACKETbb) LOW PARAPHRASE BRACKETbcTILDE#DOT+fBELOW",
    "u= _ BAR#QUILLbc) _ BAR#QUILL;2e26:bd= SIDEWAYS U BRACKETx) SIDEWAYS U BRACKETy= > PARENTHESISx) > PARENTHESIS",
    "2e2b:yONE DOT OVER TWO DOTS PUNCTUATION;2e2d:bhFIVE DOT|;2e2f:n_ TILDEoRING POINTkWORD SEPARATOR MIDDLE DOT",
    "2e36:zDAGGER#= GUARDk) GUARD;2e3a:xTWO-EM DASHkHREE-EM DASHnSTENOGRAPHIC FULL STOPw_ SIX DOTSrWIGGLY _ LINE",
    "uCAPITULUMj> HYPHEN;2e42:gLOW-REVERSED-9 QUOTATION|bjASH#= UPTURNuOUBLE SUSPENSION|wINVERTED LOW KAVYKA",
    "a#KAVYKA+blLOW KAVYKAa#DOTt> STACKED COMMAsTTED SOLIDUS;2e4c:oMEDIEVAL COMMAoPARAGRAPHUS|pUNCTUS ELEVATUS|",
    "vCORNISH VERSE DIVIDERuROSS PATTY#) CROSSBARo= CROSSBARbeTIRONIAN. $ ETyMEDIEVAL EXCLAMATION|qQUESTION|",
    "w= SQUARE BRACKET#STROKEbf) SQUARE BRACKET#STROKEbg= SQUARE BRACKET#> STROKEbm) SQUARE BRACKET#> STROKE",
    "2e5d:bnOBLIQUE HYPHEN;3003:oDITTO|kJAPANESE INDUSTRIAL STANDARD~;3008:bj= ANGLE BRACKETs) ANGLE BRACKET",
    "t= > ANGLE BRACKETz) > ANGLE BRACKETba= CORNER BRACKETt) CORNER BRACKETu= WHITE CORNER BRACKET",
    "z) WHITE CORNER BRACKETba= BLACK LENTICULAR BRACKETbd) BLACK LENTICULAR BRACKETbePOSTAL|lGETA|",
    "j= TORTOISE SHELL BRACKETbb) TORTOISE SHELL BRACKETbc= WHITE LENTICULAR BRACKETbd) WHITE LENTICULAR BRACKET",
    "be= WHITE TORTOISE SHELL BRACKETbh) WHITE TORTOISE SHELL BRACKETbi= WHITE SQUARE BRACKETz) WHITE SQUARE BRACKET",
    "baWAVE DASH;301e:j> PRIME QUOTATION|bbLOW > PRIME QUOTATION|bfPOSTAL| FACE;3030:qWAVY DASHj_ KANA REPEAT|",
    "eWITH VOICED SOUND|wMARK UPPER HALFpWITH VOICED SOUND| UPPER HALFbhMARK LOWER HALF",
    "303b:bbIDEOGRAPHIC ITERATION|bjMASU|jPART ALTERNATION|;3099:vCOMBINING KATAKANA-HIRAGANA VOICED SOUND|",
    "rSEMI-VOICED SOUND|byKATAKANA-HIRAGANA VOICED SOUND|rSEMI-VOICED SOUND|;30a0:w> HYPHEN;30fc:nPROLONGED SOUND|",
    "3250:bmPARTNERSHIP.;327f:qKOREAN STANDARD~;32cf:wLIMITED LIABILITY.;a640:wCYRILLIC $!ZEMLYAv%!ZEMLYAt$!DZELO",
    "u%!DZELOs$!REVERSED DZEbb%!REVERSED DZEz$!IOTAt%!IOTAr$!DJERVu%!DJERVs$!MONOGRAPH UKbb%!MONOGRAPH UK",
    "z$!BROAD OMEGAba%!BROAD OMEGAy$!NEUTRAL YERba%!NEUTRAL YERy$!YERU#BACK YERbh%!YERU#BACK YERbf$!IOTIFIED YAT",
    "bb%!IOTIFIED YATz$!REVERSED YUba%!REVERSED YUy$!IOTIFIED Az%!IOTIFIED Ax$!CLOSED LITTLE YUS",
    "bg%!CLOSED LITTLE YUSbe$!BLENDED YUSba%!BLENDED YUSy$!IOTIFIED CLOSED LITTLE YUSbp%!IOTIFIED CLOSED LITTLE YUS",
    "bn$!YNr%!YNp$!REVERSED TSEbb%!REVERSED TSEz$!SOFT DEw%!SOFT DEu$!SOFT ELw%!SOFT ELu$!SOFT EMw%!SOFT EM",
    "u$!MONOCULAR Oba%!MONOCULAR Oy$!BINOCULAR Oba%!BINOCULAR Oy$!> MONOCULAR Obh%!> MONOCULAR O",
    "bfLETTER MULTIOCULAR ObcOMBINING CYRILLIC VZMETfTEN MILLIONS.rHUNDRED MILLIONS.vTHOUSAND MILLIONS.",
    "bpSLAVONIC ASTERISK;a67c:rCOMBINING CYRILLIC KAVYKAgPAYEROKzYRILLIC KAVYKAgPAYEROKh$!DWEs%!DWEq$!DZWEt%!DZWE",
    "r$!ZHWEt%!ZHWEr$!CCHEt%!CCHEr$!DZZEt%!DZZEr$!TE#MIDDLE HOOKbi%!TE#MIDDLE HOOKbg$!TWEs%!TWEq$!TSWEt%!TSWEr$!TSSE",
    "t%!TSSEr$!TCHEt%!TCHEr$!HWEs%!HWEq$!SHWEt%!SHWEr$!> Ox%!> Ov$!CROSSED Oy%!CROSSED ObfMODIFIER!CYRILLIC HARD.",
    "jSOFT.;a700:rHINESE TONE YIN PINGhANG PINGiIN SHANGiANG SHANGjIN QUfANG QUgIN RUfANG RU",
    "uEXTRA-HIGH DOTTED TONE BARbaHIGH DOTTED TONE BARuMID DOTTED TONE BARtLOW DOTTED TONE BAR",
    "tEXTRA-LOW DOTTED TONE BARtHIGH DOTTED =-STEM TONE BARbkHIGH DOTTED =-STEM TONE BARbeMID DOTTED =-STEM TONE BAR",
    "bdLOW DOTTED =-STEM TONE BARbdEXTRA-LOW DOTTED =-STEM TONE BARbdHIGH =-STEM TONE BARbdHIGH =-STEM TONE BAR",
    "xMID =-STEM TONE BARwLOW =-STEM TONE BARwEXTRA-LOW =-STEM TONE BARbcDOT _ BARmSLASHfHORIZONTAL BAR",
    "sLOWER ) CORNER ANGLEyRAISED UP&iDOWN&kEXCLAMATION|qINVERTED EXCLAMATION|bgLOW INVERTED EXCLAMATION|",
    "bdSTRESS*HIGH TONEjLOW TONEbjLATIN $!EGYPTOLOGICAL ALEFbh%!EGYPTOLOGICAL ALEFbf$!EGYPTOLOGICAL AIN",
    "bg%!EGYPTOLOGICAL AINbe$!HENGt%!HENGr$!TZr%!TZp$!TRESILLOx%!TRESILLOv$!CUATRILLOy%!CUATRILLOw$!CUATRILLO#COMMA",
    "bj%!CUATRILLO#COMMAbhLETTER % $ FbSw$!AAr%!AAp$!AOr%!AOp$!AUr%!AUp$!AVr%!AVp$!AV#HORIZONTAL BAR",
    "bl%!AV#HORIZONTAL BARbj$!AYr%!AYp$!REVERSED C#DOTbi%!REVERSED C#DOTbg$!K#STROKEbc%!K#STROKE",
    "ba$!K#DIAGONAL STROKEbl%!K#DIAGONAL STROKEbj$!K#STROKE*DIAGONAL STROKEbw%!K#STROKE*DIAGONAL STROKEbu$!BROKEN L",
    "x%!BROKEN Lv$!L#HIGH STROKEbh%!L#HIGH STROKEbf$!O#LONG STROKE OVERLAYbp%!O#LONG STROKE OVERLAYbn$!O#LOOP",
    "ba%!O#LOOPy$!OOr%!OOp$!P#STROKE THROUGH DESCENDERbu%!P#STROKE THROUGH DESCENDERbs$!P#FLOURISHbe%!P#FLOURISH",
    "bc$!P#SQUIRREL TAILbj%!P#SQUIRREL TAILbh$!Q#STROKE THROUGH DESCENDERbu%!Q#STROKE THROUGH DESCENDER",
    "bs$!Q#DIAGONAL STROKEbl%!Q#DIAGONAL STROKE;a75c:bj$!RUM ROTUNDAba%!RUM ROTUNDAy$!V#DIAGONAL STROKE",
    "bl%!V#DIAGONAL STROKEbj$!VYr%!VYp$!VISIGOTHIC Zbb%!VISIGOTHIC Zz$!THORN#STROKEbg%!THORN#STROKE",
    "be$!THORN#STROKE THROUGH DESCENDERby%!THORN#STROKE THROUGH DESCENDERbw$!VENDt%!VENDr$!ETr%!ETp$!ISr%!ISp$!CON",
    "s%!CONwMODIFIER!USsLATIN %!DUMdLUMdMUMdNUMdRUMqLETTER % $ RUMy%!TUMdUMp$!INSULAR Dy%!INSULAR Dw$!INSULAR F",
    "y%!INSULAR Fw$!INSULAR GjTURNED INSULAR Gbf%!TURNED INSULAR Gbd$!TURNED Lx%!TURNED Lv$!INSULAR Ry%!INSULAR R",
    "w$!INSULAR Sy%!INSULAR Sw$!INSULAR Ty%!INSULAR TbcMODIFIER!LOW CIRCUMFLEX ACCENTvCOLONfSHORT EQUALS.",
    "bhLATIN $!SALTILLOx%!SALTILLOv$!TURNED Hx%!L#RETROFLEX HOOK*BELTbrLETTER SINOLOGICAL DOTw$!N#DESCENDER",
    "bf%!N#DESCENDERbd$!C#BARz%!C#BARdPALATAL HOOKtH#PALATAL HOOKbg$!B#FLOURISHbe%!B#FLOURISHbc$!F#STROKE",
    "bc%!F#STROKEba$!VOLAPUK AEz%!VOLAPUK AEx$!VOLAPUK OEz%!VOLAPUK OEx$!VOLAPUK UEz%!VOLAPUK UEx$!G#OBLIQUE STROKE",
    "bk%!G#OBLIQUE STROKEbi$!K#OBLIQUE STROKEbk%!K#OBLIQUE STROKEbi$!N#OBLIQUE STROKEbk%!N#OBLIQUE STROKE",
    "bi$!R#OBLIQUE STROKEbk%!R#OBLIQUE STROKEbi$!S#OBLIQUE STROKEbk%!S#OBLIQUE STROKEbi$!H#HOOKlREVERSED OPEN E",
    "pSCRIPT GiL#BELTl% $ IbeLETTER % $ Qw$!TURNED KbTiJ#CROSSED-TAILtCHIdBETAt%!BETAr$!OMEGAu%!OMEGAs$!U#STROKE",
    "bc%!U#STROKEba$!GLOTTAL Ay%!GLOTTAL Aw$!GLOTTAL Iy%!GLOTTAL Iw$!GLOTTAL Uy%!GLOTTAL Uw$!OLD POLISH O",
    "bb%!OLD POLISH Oz$!ANGLICANA Wba%!ANGLICANA Wy$!C#PALATAL HOOKtS#HOOKlZ#PALATAL HOOKtD#SHORT STROKE OVERLAY",
    "bq%!D#SHORT STROKE OVERLAYbo$!S#SHORT STROKE OVERLAYbq%!S#SHORT STROKE OVERLAY;a7d0:bo$!CLOSED INSULAR G",
    "bf%!CLOSED INSULAR G;a7d3:q> THORN;a7d5:fWYNNy$!MIDDLE SCOTS Sbd%!MIDDLE SCOTS Sbb$!SIGMOID Sy%!SIGMOID S",
    "a7f5:w$!REVERSED HALF Hbe%!REVERSED HALF H;a7f9:biMODIFIER!% LIGATURE OEbhLATIN!% $ TURNED M",
    "a8f2:bjDEVANAGARI. SPACING CANDRABINDUtCANDRABINDU VIRAMAs> CANDRABINDU VIRAMAzCANDRABINDU TWOcHREEfAVAGRAHA",
    "uPUSHPIKAnGAP FILLERkCARETfHEADSTROKEkSIGN SIDDHAMmJAIN OMhLETTER AYjVOWEL. AY;ab30:yLATIN %!BARRED ALPHA",
    "ab32:lLACKLETTER EmARRED EiE#FLOURISHpLENIS FhSCRIPT G#CROSSED-TAILbaL#INVERTED LAZY Sp> MIDDLE TILDE",
    "tMIDDLE RINGsM#CROSSED-TAILtN#CROSSED-TAILtENG#CROSSED-TAILvBLACKLETTER Oa#STROKEzOPEN O#STROKEsINVERTED OE",
    "lTURNED OE#STROKEgHORIZONTAL STROKEy OPEN-Oa#STROKEbbSTIRRUP RwLETTER % $ R#) LEG;ab48:bl%!> RiR#CROSSED-TAIL",
    "t> R#CROSSED-TAILbaSCRIPT Ra#RINGsBASELINE ESHmU#SHORT ) LEGuBAR#SHORT ) LEGzIcTURNED UIjU#= HOOKqCHI",
    "a#LOW ) RINGk= SERIFxX#LOW ) RINGmNG = LEGa*LOW ) RINGsWITH SERIFbfY#SHORT ) LEG;ab5c:bpMODIFIER!% HENG",
    "eL#INVERTED LAZY SpMIDDLE TILDEtU#= HOOKbmLATIN %!SAKHA YATjIOTIFIED EkOPEN OEhUOcINVERTED ALPHA",
    "bhGREEK!% $ OMEGAbgLATIN %!DZ DIGRAPH#RETROFLEX HOOKbeTS DIGRAPH#RETROFLEX HOOKbdURNED R#MIDDLE TILDE",
    "btMODIFIER!% TURNED Wo= TACKj) TACK;fb00:baLATIN % LIGATURE FFbIbLbFIbLdLONG S TiST",
    "fb13:xARMENIAN % LIGATURE MEN NOWdECHdINIhVEW NOWhMEN XEH;fb1d:bfHEBREW!YOD#HIRIQvPOINT JUDEO-SPANISH VARIKA",
    "baLIGATURE YIDDISH YOD YOD PATAHbdETTER ALTERNATIVE AYINqWIDE ALEFeDALETfHEcKAFdLAMEDf^ MEMjRESHeTAV",
    "iALTERNATIVE PLUS.vSHIN#SHIN DOThIN DOThDAGESH*SHIN DOThIN DOTbcALEF#PATAHfQAMATSgMAPIQpBET#DAGESHpGIMEL#DAGESH",
    "rDALET#DAGESHrHE#MAPIQnVAV#DAGESHpZAYIN#DAGESH;fb38:rTET#DAGESHpYOD#DAGESHp^ KAF#DAGESHvKAF#DAGESHpLAMED#DAGESH",
    "fb3e:rMEM#DAGESH;fb40:pNUN#DAGESHpSAMEKH#DAGESH;fb43:s^ PE#DAGESHuPE#DAGESH;fb46:oTSADI#DAGESHrQOF#DAGESH",
    "pRESH#DAGESHqSHIN#DAGESHqTAV#DAGESHpVAV#HOLAMoBET#RAFEnKAF#RAFEnPE#RAFEsIGATURE ALEF LAMEDbaARABIC!ALEF WASLA<(",
    "n^(vBEEH<(n^(kINITIAL(mMEDIAL(qPEH<(n^(kINITIAL(mMEDIAL(pBEHEH<(n^(kINITIAL(mMEDIAL(rTTEHEH<(n^(kINITIAL(",
    "mMEDIAL(rEHEH<(n^(kINITIAL(mMEDIAL(qTEH<(n^(kINITIAL(mMEDIAL(qVEH<(n^(kINITIAL(mMEDIAL(pPEHEH<(n^(kINITIAL(",
    "mMEDIAL(rDYEH<(n^(kINITIAL(mMEDIAL(qNYEH<(n^(kINITIAL(mMEDIAL(qTCHEH<(n^(kINITIAL(mMEDIAL(mEH<(n^(kINITIAL(",
    "mMEDIAL(tDDAHAL<(n^(qAHAL<(n^(pUL<(n^(nDAL<(n^(pJEH<(n^(oRREH<(n^(pKEHEH<(n^(kINITIAL(mMEDIAL(rGAF<(n^(",
    "kINITIAL(mMEDIAL(oUEH<(n^(kINITIAL(mMEDIAL(qNGOEH<(n^(kINITIAL(mMEDIAL(qOON GHUNNA<(n^(wRNOON<(n^(kINITIAL(",
    "mMEDIAL(rHEH#YEH+<(n^(zGOAL<(n^(kINITIAL(mMEDIAL(qDOACHASHMEE<(n^(kINITIAL(mMEDIAL(bbYEH BARREE<(n^(",
    "kWITH HAMZA+<(n^(;fbd3:bmNG<(n^(kINITIAL(mMEDIAL(oU<(n^(mOE<(n^(nYU<(n^(nU#HAMZA+<(bgVE<(n^(nKIRGHIZ OE<(n^(",
    "nYU<(n^(vE<(n^(kINITIAL(mMEDIAL(nUIGHUR KAZAKH KIRGHIZ ALEF MAKSURA INITIAL(mMEDIAL(;fbfc:buFARSI YEH<(n^(",
    "kINITIAL(mMEDIAL(;fd3e:bjORNATE = PARENTHESISq) PARENTHESIS;fdfc:yRIAL.;fe20:jCOMBINING LIGATURE = HALFj) HALF",
    "t> TILDE = HALFj) HALFxMACRON = HALFj) HALFrCONJOINING MACRONrLIGATURE = HALF?p) HALF?zTILDE = HALF?p) HALF?",
    "wMACRON = HALF?p) HALF?xCONJOINING MACRON?wYRILLIC TITLO = HALFj) HALF;fe45:bjSESAME DOT;fe49:kDASHED OVERLINE",
    "pCENTRELINE OVERLINEtWAVY OVERLINEn> WAVY OVERLINEtASHED LOW LINEpCENTRELINE LOW LINEtWAVY LOW LINEn% COMMA",
    "fIDEOGRAPHIC COMMArFULL STOP;fe54:jSEMICOLONjCOLONfQUESTION|nEXCLAMATION|pM DASHh= PARENTHESISq) PARENTHESIS",
    "r= CURLY BRACKETs) CURLY BRACKETt= TORTOISE SHELL BRACKETbb) TORTOISE SHELL BRACKETbcNUMBER.lAMPERSANDiSTERISK",
    "iPLUS.jHYPHEN-MINUSmLESS-THAN.oGREATER-THAN.rEQUALS.;fe68:lREVERSE SOLIDUSpDOLLAR.lPERCENT.mCOMMERCIAL AT",
    "fe70:tARABIC FATHATAN<(wTATWEEL#FATHATAN+bbDAMMATAN<(wTAIL FRAGMENTnKASRATAN<(;fe76:wFATHA<(nMEDIAL(rDAMMA<(",
    "nMEDIAL(rKASRA<(nMEDIAL(rSHADDA<(nMEDIAL(rUKUN<(nMEDIAL(rLETTER HAMZA<(tALEF#MADDA+<(n^(wHAMZA+<(n^(",
    "bgWAW#HAMZA+<(n^(bfALEF#HAMZA?<(n^(bgYEH#HAMZA+<(n^(kINITIAL(mMEDIAL(bgALEF<(n^(pBEH<(n^(kINITIAL(mMEDIAL(",
    "pTEH MARBUTA<(n^(sISOLATED(n^(kINITIAL(mMEDIAL(oHEH<(n^(kINITIAL(mMEDIAL(qJEEM<(n^(kINITIAL(mMEDIAL(qHAH<(n^(",
    "kINITIAL(mMEDIAL(pKHAH<(n^(kINITIAL(mMEDIAL(qDAL<(n^(oTHAL<(n^(;feaf:pZAIN<(n^(pSEEN<(n^(kINITIAL(mMEDIAL(",
    "pHEEN<(n^(kINITIAL(mMEDIAL(qAD<(n^(kINITIAL(mMEDIAL(pDAD<(n^(kINITIAL(mMEDIAL(pTAH<(n^(kINITIAL(mMEDIAL(pZAH<(",
    "n^(kINITIAL(mMEDIAL(pAIN<(n^(kINITIAL(mMEDIAL(pGHAIN<(n^(kINITIAL(mMEDIAL(rFEH<(n^(kINITIAL(mMEDIAL(pQAF<(n^(",
    "kINITIAL(mMEDIAL(pKAF<(n^(kINITIAL(mMEDIAL(pLAM<(n^(kINITIAL(mMEDIAL(pMEEM<(n^(kINITIAL(mMEDIAL(qNOON<(n^(",
    "kINITIAL(mMEDIAL(qHEH<(n^(kINITIAL(mMEDIAL(pWAW<(n^(oALEF MAKSURA<(n^(xYEH<(n^(kINITIAL(mMEDIAL(",
    "feff:bdZERO WIDTH NO-BREAK SPACE;fff9:zINTERLINEAR ANNOTATION ANCHORgSEPARATORjTERMINATOR",
    "bhOBJECT REPLACEMENT CHARACTERbcREPLACEMENT CHARACTER;10175:vGREEK ONE HALF.a ALTERNATE(bcTWO THIRDS.",
    "oHREE QUARTERS.tYEAR.jTALENT.lDRACHMA.mOBOL.jTWO OBOLS.nHREE OBOLS.qFOUR OBOLS.oIVE OBOLS.pMETRETES.",
    "nKYATHOS BASE.rLITRA.kOUNKIA.lXESTES.lARTABE.jOURA.lGRAMMA.lTRYBLION BASE.sZERO.jONE QUARTER.qSINUSOID.",
    "nINDICTION.uNOMISMA.;1019c:mASCIA~;101a0:mGREEK~ TAU RHO;10376:uCOMBINING OLD PERMIC!ANcDOIdZATAeNENOEfSII",
    "10780:bfMODIFIER!% $ AApUPERSCRIPT TRIANGULAR COLONqHALF TRIANGULAR COLONbgMALL AEc$ BjB#HOOK;10787:lDZ DIGRAPH",
    "a#RETROFLEX HOOKoCURLtEZH DIGRAPHl#TAILeHOOKa*TAILuREVERSED EkCLOSED REVERSED OPEN EwFENG DIGRAPHmRAMS HORNj$ G",
    "jG#HOOKl$ G#HOOKtH#STROKEn$ HjHENG#HOOKoDOTLESS J#STROKE*HOOKbeLS DIGRAPHjZ DIGRAPHj#BELTl$ L#BELT",
    "tL#RETROFLEX HOOK*BELTbdEZHa#RETROFLEX HOOKyTURNED Ya#BELTsO#STROKEn$ OEjLOSED OMEGAmQbTURNED R#LONG LEG",
    "a*RETROFLEX HOOKbpR#TAILeFISHHOOKp$ RjTC DIGRAPH#CURLtS DIGRAPHa#RETROFLEX HOOKbdESH DIGRAPHl#RETROFLEX HOOK",
    "vV#) HOOK;107b2:r$ YpGLOTTAL STOP#STROKEyREVERSED GLOTTAL STOP#STROKEbhBILABIAL CLICKoDENTAL CLICK",
    "mLATERAL CLICKnALVEOLAR CLICKoRETROFLEX CLICK#RETROFLEX HOOKbj% S#CURL",
    "10b3a:bhTINY TWO DOTS OVER ONE DOT PUNCTUATIONbm% TWO DOTS OVER ONE DOT PUNCTUATION;1133b:bnCOMBINING BINDU?",
    "11fd5:vTAMIL. NELdCEVITUgAAZHAAKKUjUZHAKKUhMUUVUZHAKKUlKURUNIgPATHAKKUiMUKKURUNIjKAACUfPANAMeONdVARAAKANiPAARAM",
    "gKUZHIfVELIjWET CULTIVATION.uDRY CULTIVATION.uLAND.jSALT PAN.nTRADITIONAL CREDIT.lNUMBER.xCURRENT.mAND ODD.",
    "mSPENT.kTOTAL.kIN POSSESSION.sSTARTING FROM.rIGN MUTHALIYAjVAKAIYARAA;11fff:pPUNCTUATION END OF TEXT",
    "16fe1:bdNUSHU ITERATION|;16fe4:uKHITAN % SCRIPT FILLER;16ff0:baVIETNAMESE ALTERNATE READING| CAcNHAY",
    "1bca0:bmSHORTHAND(AT!OVERLAPoCONTINUING OVERLAPsDOWN STEPjUP STEP;1d242:yCOMBINING GREEK MUSICAL TRISEME",
    "gETRASEMEjPENTASEMEbhGREEK MUSICAL LEIMMA;1d300:uMONOGRAM FOR EARTHsDIGRAM FOR HEAVENLY EARTHnUMAN EARTH",
    "lEARTHLY HEAVENfUMANjH;1d377:qTALLY| ONEdFIVE;1df00:pLATIN %!FENG DIGRAPH#TRILLxREVERSED SCRIPT G",
    "beLETTER % $ TURNED Gbd%!REVERSED KxLETTER % $ L#BELTbg%!LEZH#RETROFLEX HOOKyTURNED Y#BELTsREVERSED ENG",
    "mTURNED R#LONG LEG*RETROFLEX HOOKbo#HOOK*RETROFLEX HOOKbrLETTER RETROFLEX CLICK#RETROFLEX HOOKbq%!ESH#> BAR",
    "a*CURLbcTURNED T#CURLbfLETTER INVERTED GLOTTAL STOP#CURLbfSTRETCHED C#CURLuMALL $ TURNED Kbd%!L#FISHHOOK",
    "pDEZH DIGRAPH#PALATAL HOOKbeL#BELT*PALATAL HOOKbcENG#PALATAL HOOKvTURNED R#PALATAL HOOK",
    "baR#FISHHOOK*PALATAL HOOKbgTESH DIGRAPH#PALATAL HOOKbeEZH#PALATAL HOOKvDEZH DIGRAPH#RETROFLEX HOOK",
    "bgI#STROKE*RETROFLEX HOOKbgO#RETROFLEX HOOKvTESH DIGRAPH#RETROFLEX HOOKbgC#RETROFLEX HOOKvS#CURL",
    "1f100:beDIGIT ZERO FULL STOPjCOMMAkONE COMMAjTWO COMMAiHREE COMMAlFOUR COMMAjIVE COMMAkSIX COMMAiEVEN COMMA",
    "lEIGHT COMMAlNINE COMMA;1f12a:qTORTOISE SHELL BRACKETED LATIN $!S;1f12f:bvCOPY=~",
    "1f18a:oROSSED NEGATIVE SQUARED LATIN $!P;1f1ad:bvMASK WORK~",
    "1f240:qTORTOISE SHELL BRACKETED CJK UNIFIED IDEOGRAPH-672Ce4E09c8Ce5B89e70B9e6253e76D7e52DDe6557",
    "1f260:bzROUNDED~ FOR FUcLUcSHOUeXIcSHUANGXIiCAI;1f300:wCYCLONEhFOGGY;1f303:fNIGHT#STARSqSUNRISE OVER MOUNTAINS",
    "qEhCITYSCAPE AT DUSKrSUNSET OVER BUILDINGSvRAINBOWhBRIDGE AT NIGHTpWATER WAVEkVOLCANOhMILKY WAY",
    "jEARTH GLOBE EUROPE-AFRICAnAMERICAShSIA-AUSTRALIAbaGLOBE#MERIDIANS;1f312:uWAXING CRESCENT MOON~",
    "bbFIRST QUARTER MOON~zWAXING GIBBOUS MOON~baFULL MOON~qWANING GIBBOUS MOON~baLAST QUARTER MOON~",
    "yWANING CRESCENT MOON~bbCRESCENT MOON;1f31b:nFIRST QUARTER MOON#FACEbcLAST QUARTER MOON#FACEbbFULL MOON#FACE",
    "tSUN#FACEnGLOWING STARmSHOOTING STARnTHERMOMETER;1f327:lCLOUD#RAINeSNOWeLIGHTNINGjTORNADOsFOGdWIND BLOWING FACE",
    "rHOT DOGhTACOeBURRITOhCHESTNUTiSEEDLINGiEVERGREEN TREEoDECIDUOUS TREEoPALM TREEjCACTUSgHOT PEPPERkTULIP",
    "fCHERRY BLOSSOMoROSEeHIBISCUSiSUNFLOWERjBLOSSOMhEAR OF MAIZEfRICElHERBeFOUR LEAF CLOVERqMAPLE LEAFkFALLEN LEAF",
    "lLEAF FLUTTERING IN WINDxMUSHROOMiTOMATOgAUBERGINEjGRAPESgMELONfWATERMELONkTANGERINEjLEMONfBANANAgPINEAPPLE",
    "jRED APPLEjGREEN APPLElPEARbCHfCHERRIESiSTRAWBERRYkHAMBURGERjSLICE OF PIZZAoMEAT ON BONEmPOULTRY LEG",
    "lRICE CRACKERhBALLjCOOKED RICEkURRY*RICEoSTEAMING BOWLmPAGHETTIjBREADfFRENCH FRIESmROASTED SWEET POTATOuDANGO",
    "fODENeSUSHIfFRIED SHRIMPlISH CAKE#SWIRL DESIGNbbSOFT ICE CREAMnHAVED ICEkICE CREAMjDOUGHNUTiCOOKIEfHOCOLATE BAR",
    "mANDYfLOLLIPOPiCUSTARDhHONEY POTjSHORTCAKEjBENTO BOXjPOT OF FOODlCOOKINGhFORK*KNIFEoTEACUP WITHOUT HANDLE",
    "vSAKE BOTTLE*CUPtWINE GLASSkCOCKTAIL GLASSoTROPICAL DRINKoBEER MUGiCLINKING BEER MUGSsBABY BOTTLE",
    "lFORK*KNIFE#PLATEzBOTTLE#POPPING CORKyPOPCORNhRIBBONgWRAPPED PRESENTpBIRTHDAY CAKEnJACK-O-LANTERN",
    "oCHRISTMAS TREEoFATHER CHRISTMASpIREWORKSb SPARKLERrBALLOONhPARTY POPPERmCONFETTI BALLnTANABATA TREE",
    "nCROSSED FLAGSnPINE DECORATIONpJAPANESE DOLLSoCARP STREAMERnWIND CHIMEkMOON VIEWING CEREMONYvSCHOOL SATCHEL",
    "oGRADUATION CAPoHEART#TIP ON THE =baBOUQUET OF FLOWERSsMILITARY MEDALoREMINDER RIBBON;1f399:pSTUDIO MICROPHONE",
    "rLEVEL SLIDERmCONTROL KNOBSnBEAMED ASCENDING MUSICAL NOTESxDESCENDING MUSICAL NOTESbfFILM FRAMES",
    "lADMISSION TICKETSrCAROUSEL HORSEoFERRIS WHEELmROLLER COASTERoFISHING POLE*FISHvMICROPHONEjOVIE CAMERAmCINEMA",
    "gHEADPHONEjARTIST PALETTE;1f3aa:oCIRCUS TENTlTICKETgCLAPPER BOARDnPERFORMING ARTSpVIDEO GAMEkDIRECT HIT",
    "kSLOT MACHINEmBILLIARDSjGAME DIEiBOWLINGhFLOWER PLAYING CARDS;1f3b6:uMULTIPLE MUSICAL NOTESwSAXOPHONEjGUITAR",
    "1f3ba:gTRUMPEThVIOLIN;1f3bd:gRUNNING SHIRT#SASHxTENNIS RACQUET*BALLxSKI*SKI BOOTqBASKETBALL*HOOPtCHEQUERED FLAG",
    "oSNOWBOARDERlRUNNERgSURFERfPORTS MEDALmTROPHYgHORSE RACINGmAMERICAN FOOTBALLrRUGBY FOOTBALLoSWIMMER",
    "hWEIGHT LIFTERnGOLFERgRACING MOTORCYCLEkCARkCRICKET BAT*BALLuVOLLEYBALLkFIELD HOCKEY STICK*BALL",
    "bbICE HOCKEY STICK*PUCKzTABLE TENNIS PADDLE*BALLbcSNOW CAPPED MOUNTAINuCAMPINGhBEACH#UMBRELLA",
    "sUILDING CONSTRUCTIONvHOUSE BUILDINGSpCITYSCAPEjDERELICT HOUSE BUILDINGxCLASSICAL BUILDINGsDESERTa ISLAND",
    "nNATIONAL PARKnSTADIUMhHOUSE BUILDINGiWITH GARDENrOFFICE BUILDINGpJAPANESE POST OFFICEuEUROPEAN POST OFFICE",
    "uHOSPITALiBANKeAUTOMATED TELLER MACHINEyHOTELfLOVE HOTELkCONVENIENCE STORErSCHOOLgDEPARTMENT STOREqFACTORY",
    "hIZAKAYA LANTERNpJAPANESE CASTLEpEUROPEAN CASTLE;1f3f3:pWAVING WHITE FLAGkBLACK FLAGrROSETTE;1f3f7:hLABEL",
    "fBADMINTON RACQUET*SHUTTLECOCKbgOW AND&nAMPHORAhEMOJI MODIFIER FITZPATRICK TYPE-1-2d3b4b5b6bhRATdMOUSEfOX",
    "cWATER BUFFALOnCOWdTIGERfLEOPARDhRABBITgCATdDRAGONgCROCODILEjWHALEfSNAILcKEfHORSEfRAMdGOATeSHEEPfMONKEYgROOSTER",
    "hCHICKENhDOGdPIGdBOAReELEPHANTiOCTOPUShSPIRAL SHELLmBUGdANTdHONEYBEEiLADY BEETLElFISHeTROPICAL FISHnBLOWFISH",
    "iTURTLEgHATCHING CHICKoBABY CHICKkFRONT-FACING BABY CHICKxBIRDePENGUINhKOALAfPOODLEgDROMEDARY CAMEL",
    "pBACTRIAN CAMELoDOLPHINhMOUSE FACEkCOW FACEiTIGER FACEkRABBIT FACElCAT FACEiDRAGON FACElSPOUTING WHALE",
    "oHORSE FACEkMONKEY FACElDOG FACEiPIG FACEiFROG FACEjHAMSTER FACEmWOLF FACEjBEAR FACEjPANDA FACEjIG NOSE",
    "hAW PRINTSkCHIPMUNKiEYEScEcARdNOSEeMOUTHfTONGUE;1f44a:gFISTED HAND.qWAVING HAND.qOK HAND.mTHUMBS UP.hDOWN.",
    "qCLAPPING HANDS.;1f451:sROWNfWOMANS HATkEYEGLASSESkNECKTIEhT-SHIRThJEANSfDRESSfKIMONOgBIKINIgWOMANS CLOTHES",
    "oPURSEfHANDBAGhPOUCHfMANS SHOEjATHLETIC SHOEnHIGH-HEELED SHOEqWOMANS SANDALgBOOTSmFOOTPRINTSkBUST IN SILHOUETTE",
    "oS IN SILHOUETTEsOYdGIRLeMANdWOMANfFAMILYgMAN*WOMAN HOLDING HANDS;1f46e:bbPOLICE OFFICERoWOMAN#BUNNY EARS",
    "vBRIDE#VEIL;1f472:pMAN#GUA PI MAOkTURBANpOLDER MANdWOMANlBABYeCONSTRUCTION WORKERtPRINCESSiJAPANESE OGREeGOBLIN",
    "pGHOSTfBABY ANGELkEXTRATERRESTRIAL ALIENwALIEN MONSTERnIMPdSKULLfINFORMATION DESK PERSONxGUARDSMANjDANCER",
    "gLIPSTICKiNAIL POLISH;1f487:lHAIRCUThBARBER POLElSYRINGEhPILLeKISS|jLOVE LETTERlRINGeGEM STONEjKISSeBOUQUET",
    "hCOUPLE#HEARTrWEDDINGhBEATING HEARTmROKEN HEART;1f496:mSPARKLING HEARTpGROWING HEARTnHEART#ARROWqBLUE HEART",
    "kGREEN HEARTlYELLOW HEARTmPURPLE HEARTmHEART#RIBBONrREVOLVING HEARTSqHEART DECORATION",
    "qDIAMOND SHAPE#A DOT INSIDEbfELECTRIC LIGHT BULBtANGER~mBOMBeSLEEPING~pCOLLISION~qSPLASHING SWEAT~wDROPLETgASH~",
    "lPILE OF POOlFLEXED BICEPSnDIZZY~mSPEECH BALLOONoTHOUGHT BALLOON;1f4af:pHUNDRED POINTS~vMONEY BAG",
    "jCURRENCY EXCHANGE;1f4b3:qREDIT CARDlBANKNOTE#YEN.iDOLLAR.lEURO.jPOUND.yMONEY#WINGSqCHART#UP, TREND*YEN.blSEAT",
    "ePERSONAL COMPUTERrBRIEFCASEjMINIDISCiFLOPPY DISKlOPTICAL DISCmDVDdFILE FOLDER;1f4c3:lPAGE#CURLjFACING UP",
    "oCALENDARiTEAR-OFF CALENDARrCARD INDEXjHART#UP, TRENDnDOWN, TRENDbaBAR CHARTjCLIPBOARDjPUSHPINhROUND PUSHPIN",
    "nPAPERCLIPjSTRAIGHT RULERoTRIANGULAR RULERqBOOKMARK TABSnLEDGERgNOTEBOOKa#DECORATIVE COVER;1f4d7:beGREEN BOOK",
    "kBLUE BOOKjORANGE BOOKlBOOKSfNAME BADGEkSCROLLgMEMOeTELEPHONE RECEIVERsPAGERfFAX MACHINElSATELLITE ANTENNA",
    "rPUBLIC ADDRESS LOUDSPEAKERbaCHEERING MEGAPHONEsOUTBOX TRAYlINBOX TRAYkPACKAGEhE-MAIL~nINCOMING ENVELOPE",
    "rENVELOPE#DOWN,&+;1f4ee:bjPOSTBOXdAL HORNlNEWSPAPERjMOBILE PHONEa#),& AT =bqVIBRATION MODEoMOBILE PHONE OFF",
    "qNO MOBILE PHONESqANTENNA#BARSrCAMERAa#FLASHrVIDEO CAMERAmTELEVISIONkRADIOfVIDEOCASSETTEnFILM PROJECTOR",
    "oPORTABLE STEREOoRAYER BEADSmTWISTED ),&SzCLOCKWISE ),*=, OPEN CIRCLE&Sa#CIRCLED ONE OVERLAY",
    "cqDOWN,*UP, OPEN CIRCLE&S;1f505:byLOW B)NESS~vHIGH B)NESS~wSPEAKER#CANCELLATION STROKEbaRa#ONE SOUND WAVE",
    "oTHREE SOUND WAVESbeBATTERYhELECTRIC PLUGn=-POINTING MAGNIFYING GLASSbe)-POINTING MAGNIFYING GLASS",
    "bfLOCK#INK PEN;1f511:rKEYdLOCK;1f514:eBELLa#CANCELLATION STROKEbcOOKMARKiLINK~lRADIO BUTTONmBACK#=,&+bfEND#=,&+",
    "beON#EXCLAMATION|#= )&+caSOON#),&+;1f51e:bgNO ONE UNDER EIGHTEEN~bcKEYCAP TENkINPUT~ FOR LATIN $ LETTERS",
    "p% LETTERStNUMBERShSYMBOLShLATIN LETTERSbeFIREeELECTRIC TORCHoWRENCHgHAMMERgNUT*BOLTmHOCHOfPISTOLgMICROSCOPE",
    "kTELESCOPEjCRYSTAL BALLmSIX POINTED STAR#MIDDLE DOTbgJAPANESE~ FOR BEGINNERbcTRIDENT EMBLEM",
    "1f538:o% ORANGE DIAMONDoBLUE DIAMONDsUP-POINTING RED@yDOWN-POINTING RED@baUP-POINTING % RED@",
    "beDOWN-POINTING % RED@;1f541:bgCROSS POMMEE#HALF-CIRCLE?yEmNOTCHED = SEMICIRCLE#THREE DOTS",
    "bf) SEMICIRCLE#THREE DOTS;1f548:boCELTIC CROSSmOM~jDOVE OF PEACEnKAABAfMOSQUEgSYNAGOGUEjMENORAH#NINE BRANCHES",
    "baBOWL OF HYGIEIA;1f568:p) SPEAKERa#ONE SOUND WAVEoTHREE SOUND WAVESbkBULLHORNa#SOUND WAVESzRINGING BELLmBOOK",
    "eCANDLEgMANTELPIECE CLOCK;1f572:rNO PIRACYjHOLEeMAN IN BUSINESS SUIT LEVITATINGbfSLEUTH OR SPYnDARK SUNGLASSES",
    "pSPIDERa WEBkJOYSTICKiMAN DANCINGl= HAND TELEPHONE RECEIVERbcTELEPHONE RECEIVER#PAGEbc) HAND TELEPHONE RECEIVER",
    "1f580:bdTELEPHONE ON TOP OF MODEMzCLAMSHELL MOBILE PHONEwBACK OF ENVELOPEqSTAMPED ENVELOPEqENVELOPE#LIGHTNING",
    "xFLYING ENVELOPEpPEN OVER STAMPED ENVELOPEzLINKED PAPERCLIPS;1f58e:qEFT WRITING HAND",
    "1f598:rSIDEWAYS WHITE = POINTING INDEXt) POINTING INDEXbaBLACK = POINTING INDEXt) POINTING INDEX",
    "1f59e:baWHITE UP POINTING INDEXrDOWN POINTING INDEXzBLACK UP POINTING INDEXrDOWN POINTING INDEX",
    "1f5a5:biDESKTOP COMPUTERqKEYBOARD*MOUSE;1f5a8:sPRINTERgOCKET CALCULATOR;1f5ac:rSOFT SHELL FLOPPY DISK",
    "wTAPE CARTRIDGEoWIRED KEYBOARDoONE BUTTON MOUSE;1f5b2:qTRACKBALL;1f5b4:jHARD DISKjSCREENgPRINTER ICONmFAX ICON",
    "iOPTICAL DISC ICONrDOCUMENT#TEXTa*PICTUREqPICTUREvFRAME#PICTUREhTILESfAN X;1f5c0:oOLDER",
    "1f5c2:gCARD INDEX DIVIDERSoFILE BOXnFILE CABINET;1f5c8:mNOTEa PAGEcD;1f5ce:iDOCUMENTiPAGEaSfWASTEBASKET",
    "lSPIRAL NOTE PADiCALENDAR PADtDESKTOP WINDOWoMINIMIZEhAXIMIZEiOVERLAPhCLOCKWISE )*= SEMICIRCLE&SbpANCELLATION X",
    "oINCREASE FONT SIZE~zDECREASE FONT SIZE~zCOMPRESSION;1f5de:lROLLED-UP NEWSPAPERtPAGE#CIRCLED TEXTwSTOCK CHART",
    "lDAGGER KNIFEmLIPSeSPEAKING HEAD IN SILHOUETTE;1f5e8:bb= SPEECH BUBBLEs) SPEECH BUBBLE;1f5ec:t= THOUGHT BUBBLE",
    "t) THOUGHT BUBBLEu= ANGER BUBBLEr) ANGER BUBBLEsMOOD BUBBLElLIGHTNING MOOD BUBBLEiDoBALLOT BOX#BALLOTpSCRIPT X",
    "iBOX#SCRIPT XpLD SCRIPT XlX#BOLD SCRIPT X;1f5f9:iCHECKbaWORLD MAPjMOUNT FUJIkTOKYO TOWERlSTATUE OF LIBERTY",
    "qILHOUETTE OF JAPANtMOYAIfGRINNING FACEa#SMILING EYES;1f609:bfWINKING FACE;1f60c:mRELIEVED FACE",
    "1f60f:nSMIRKING FACE;1f611:nEXPRESSIONLESS FACEtUNAMUSED FACE;1f614:nPENSIVE FACEmCONFUSED FACEjOUNDED FACE",
    "pKISSING FACE;1f619:a#SMILING EYESmCLOSED EYES;1f61e:bdDISAPPOINTED FACErWORRIED FACEmANGRY FACEkPOUTING FACE",
    "mCRYING FACElPERSEVERING FACE;1f625:qDISAPPOINTED BUT RELIEVED FACEbeFROWNING FACE#OPEN MOUTHbdANGUISHED FACE",
    "oFEARFUL FACEmWEARY FACEkSLEEPY FACElTIRED FACEkGRIMACING FACEoLOUDLY CRYING FACE;1f62f:sHUSHED FACE",
    "1f632:lASTONISHED FACEpFLUSHED FACEmSLEEPING FACEnDIZZY FACE;1f638:kGRINNING CAT FACE#SMILING EYES",
    "bjCAT FACE#TEARS OF JOY;1f63c:mWRY SMILExKISSING CAT FACE#CLOSED EYESbhPOUTING CAT FACEqCRYING CAT FACE",
    "pWEARY CAT FACEoSLIGHTLY FROWNING FACEnSMILING FACEvUPSIDE-DOWN FACE;1f648:qSEE-NO-EVIL MONKEY",
    "sHEAR-NO-EVIL MONKEYtSPEAK-NO-EVIL MONKEYuHAPPY PERSON RAISING ONE HAND;1f668:bcOLLOW QUILT SQUARE ORNAMENT",
    "a IN BLACK SQUAREbsSOLID QUILT SQUARE ORNAMENTa IN BLACK SQUARE;1f672:brLIGATURE OPEN ET ORNAMENT",
    "1f675:zSWASH AMPERSAND ORNAMENTxANS-SERIF HEAVY > TURNED COMMA QUOTATION| ORNAMENTbkCOMMA QUOTATION| ORNAMENT",
    "bkLOW > COMMA QUOTATION| ORNAMENT;1f67a:buINTERROBANG ORNAMENT;1f67e:bfCHECKER BOARDnREVERSE CHECKER BOARD",
    "uOCKETgHELICOPTERkSTEAM LOCOMOTIVEqRAILWAY CARlHIGH-SPEED TRAINa#BULLET NOSEbhTRAINfMETRO;1f689:fSTATIONhTRAM",
    "a CARiBUSdONCOMING BUSmTROLLEYBUSkBUS STOPiMINIBUShAMBULANCEjFIRE ENGINElPOLICE CARkONCOMING POLICE CARtTAXI",
    "eONCOMING TAXInAUTOMOBILEkONCOMING AUTOMOBILEtRECREATIONAL VEHICLEuDELIVERY TRUCKoARTICULATED LORRYrTRACTOR",
    "hMONORAILgUNTAIN RAILWAYqSUSPENSION RAILWAYsMOUNTAIN CABLEWAYrAERIAL TRAMWAYoSHIPeROWBOAThSPEEDBOAT",
    "1f6a6:j_ TRAFFIC LIGHTwCONSTRUCTION.rPOLICE CARS REVOLVING LIGHTbbTRIANGULAR FLAG ON POSTxDOOReNO ENTRY.",
    "nSMOKING~oNO SMOKING~rPUT LITTER IN ITS PLACE~beDO NOT LITTER~uPOTABLE WATER~uNON-POTABLE WATER~yBICYCLE",
    "hNO BICYCLESlBICYCLISTjMOUNTAIN BICYCLISTsPEDESTRIANkNO PEDESTRIANSoCHILDREN CROSSINGrMENS~lWOMENS~nRESTROOM",
    "iBABY~lTOILETgWATER CLOSETmSHOWERgBATHaTUBhPASSPORT CONTROLqCUSTOMShBAGGAGE CLAIMn= LUGGAGE",
    "mTRIANGLE#ROUNDED CORNERSbdPROHIBITED.;1f6c9:pBOYS~lGIRLS~mCOUCH*LAMPoSLEEPING ACCOMMODATIONvHOPPING BAGS",
    "nBELLHOP BELLkDdPLACE OF WORSHIPqOCTAGONAL.oSHOPPING TROLLEYpTUPAfPAGODAgHINDU TEMPLElUTdELEVATOR",
    "1f6dd:iPLAYGROUND SLIDEqWHEELfRING BUOYjHAMMER*WRENCHrSHIELDgOIL DRUMiMOTORWAYiRAILWAY TRACKnMOTOR BOAT",
    "kUP-POINTING MILITARY AIRPLANErAIRPLANEi% AIRPLANEba% AIRPLANEoNORTHEAST-POINTING AIRPLANEbbAIRPLANE DEPARTURE",
    "jARRIVING;1f6f0:rSATELLITEjONCOMING FIRE ENGINEuDIESEL LOCOMOTIVErPASSENGER SHIPoSCOOTERhMOTOR SCOOTERnCANOE",
    "fSLEDeFLYING SAUCERnSKATEBOARDkAUTO RICKSHAWnPICKUP TRUCKmROLLER SKATE;1f786:mBOLD WHITE CIRCLE",
    "1f789:rEXTREMELY HEAVY WHITE CIRCLE;1f78b:bcROUND TARGET;1f790:mBOLD WHITE SQUARE",
    "1f793:rEXTREMELY HEAVY WHITE SQUARE;1f79c:bcDIAMOND TARGET;1f7a1:oTHIN GREEK CROSS;1f7a4:qBOLD GREEK CROSS",
    "1f7a7:qEXTREMELY HEAVY GREEK CROSSbbTHIN SALTIRE;1f7ab:mBOLD SALTIRE;1f7ae:mEXTREMELY HEAVY SALTIRE",
    "1f7b1:xBOLD FIVE SPOKED ASTERISK;1f7b4:zEXTREMELY HEAVY FIVE SPOKED ASTERISK;1f7b7:bkBOLD SIX SPOKED ASTERISK",
    "1f7ba:yEXTREMELY HEAVY SIX SPOKED ASTERISK;1f7bd:bjBOLD EIGHT SPOKED ASTERISK;1f7c6:baFOUR POINTED BLACK STAR",
    "1f7c8:xREVERSE LIGHT FOUR POINTED PINWHEEL STAR;1f7cd:boSIX POINTED PINWHEEL STAR",
    "1f8b0:zARROW POINTING UP, THEN NORTH WESTx), THEN CURVING SOUTH WEST;1f908:bxDOWNWARD FACING HOOKeNOTCHED HOOK",
    "mHOOK#DOTnNOTCHED HOOK#DOTblPINCHED FINGERS;1f90e:pBROWN HEARTlPINCHING HANDnZIPPER-MOUTH FACErMONEY-MOUTH FACE",
    "1f913:qNERD FACEjTHINKING FACE;1f916:nROBOT FACEkHUGGING FACEmSIGN OF THE HORNSrCALL ME HAND",
    "1f91b:m=-FACING FISTq)-FACING FISTrHANDSHAKEf#INDEX*MIDDLE FINGERS CROSSEDbqI LOVE YOU HAND.;1f921:uCLOWN FACE",
    "kNAUSEATED FACEoROLLING ON THE FLOOR LAUGHINGbdDROOLING FACEnLYING FACE;1f927:kSNEEZING FACE",
    "1f929:nGRINNING FACE#STAR EYESjONE LARGE*ONE % EYE;1f92c:buSERIOUS FACE#SYMBOLS COVERING MOUTH",
    "1f92f:bnHOCKED FACE#EXPLODING HEADbgPREGNANT WOMANoBREAST-FEEDINGoPALMS UP TOGETHERrSELFIEgPRINCEgMAN IN TUXEDO",
    "mOTHER CHRISTMASqSHRUG;1f939:fJUGGLINGiFENCERgMODERN PENTATHLONrWRESTLERSiATER POLOkHANDBALLiDIVING MASK",
    "lWILTED FLOWERnDRUM#DRUMSTICKSuCLINKING GLASSESqTUMBLER GLASSnSPOONfGOAL NETiRIFLEfFIRST PLACE MEDAL",
    "rSECOND PLACE MEDALsTHIRD PLACE MEDALrBOXING GLOVEmMARTIAL ARTS UNIFORMuCURLING STONEnLACROSSE STICK*BALL",
    "xSOFTBALLiFLYING DISClCROISSANTjAVOCADOhCUCUMBERiBACONfPOTATOgCARROTgBAGUETTE BREADoGREEN SALAD",
    "lSHALLOW PAN OF FOODsTUFFED FLATBREADrEGGdGLASS OF MILKnPEANUTShKIWIFRUITjPANCAKESiDUMPLINGiFORTUNE COOKIE",
    "oTAKEOUT BOXlCHOPSTICKSkBOWL#SPOONpCUP#STRAWnOCONUThBROCCOLIiPIEcRETZELhCUT OF MEATlSANDWICHiCANNED FOOD",
    "lLEAFY GREENlMANGOeOON CAKEjBAGEL;1f971:fYAWNING FACE;1f975:mOVERHEATED FACEpFREEZING FACEnNINJAfDISGUISED FACE",
    "1f97b:oSARIeLAB COATiGOGGLEShHIKING BOOTlFLAT SHOEjCRABeLION FACEjSCORPIONiTURKEYgUNICORN FACEmEAGLEfDUCKeBAT",
    "dSHARKfOWLdFOX FACEiBUTTERFLYjDEEReGORILLAhLIZARDgRHINOCEROSkSHRIMPfQUIDfGIRAFFE FACEmZEBRA FACEkHEDGEHOG",
    "iSAUROPODiT-REXfCRICKEThKANGAROOiLLAMAfPEACOCKhHIPPOPOTAMUSmPARROTgRACCOONhLOBSTERhMOSQUITOhICROBEhBADGERgSWAN",
    "eMAMMOTHhDODOeSLOTHfOTTEReRANGUTANjSKUNKfFLAMINGOiOYSTERgBEAVERfISONfSEALeGUIDE DOGjPROBING CANE",
    "mEMOJI COMPONENT RED HAIRiCURLY HAIRkBALDeWHITE HAIRbaBONEeLEGdFOOTeTOOTHfSUPERHEROeVILLAINlAFETY VEST",
    "lEAR#HEARING AIDuMOTORIZED WHEELCHAIRtANUAL WHEELCHAIRqECHANICAL ARMdLEGoCHEESE WEDGElUPCAKEhSALT SHAKER",
    "lBEVERAGE BOXmGARLICgONIONfFALAFELhWAFFLEgBUTTERgMATE DRINKkICE CUBEiBUBBLE TEAkTROLLfSTANDING PERSON",
    "pKNEELING PERSONpDEAF PERSON;1f9d1:lADULTfCHILDfOLDER ADULTlBEARDED PERSON;1f9d9:oMAGEeFAIRYfVAMPIREhMERPERSON",
    "jELFdGENIEfZOMBIEgBRAINfORANGE HEARTmBILLED CAPkSCARFfGLOVESgCOATeSOCKSfRED GIFT ENVELOPErFIRECRACKER",
    "lJIGSAW PUZZLE PIECEtTEST TUBEjPETRI DISHkDNA > HELIXqCOMPASShABACUSgFIRE EXTINGUISHERrTOOLBOXhBRICKfMAGNET",
    "gLUGGAGEgOTION BOTTLEnSPOOL OF THREADpBALL OF YARNmSAFETY PINkTEDDY BEARkBROOMeASKETgROLL OF PAPERnBAR OF SOAP",
    "lSPONGEgRECEIPThNAZAR AMULET;1fa70:mBALLET SHOESmONE-PIECE SWIMSUITsBRIEFSgSHORTSgTHONG SANDAL",
    "1fa78:mDROP OF BLOODnADHESIVE BANDAGEqSTETHOSCOPElX-RAYfCRUTCH;1fa80:gYO-YOfKITEePARACHUTEjBOOMERANGjMAGIC WAND",
    "kPINATAgNESTING DOLLS;1fa90:nRINGED PLANETnCHAIRfRAZORfAXEdDIYA LAMPjBANJOfMILITARY HELMETpACCORDION",
    "1fa99:jCOINdARPENTRY SAWnSCREWDRIVERlLADDERgHOOKeMIRRORgWINDOWgPLUNGERhSEWING NEEDLEnKNOTeBUCKETgMOUSE TRAP",
    "kTOOTHBRUSHkHEADSTONEjPLACARDhROCKeMIRROR BALLlIDENTIFICATION CARDtLOW BATTERYlHAMSA;1fab0:fFLYdWORMeBEETLE",
    "gCOCKROACHjPOTTED PLANTmWOODeFEATHERhLOTUSfCORAL;1faba:fNEST#EGGS;1fac0:oANATOMICAL HEARTqLUNGSfPEOPLE HUGGING",
    "nREGNANT MANdPERSON;1fad0:pBLUEBERRIESkELL PEPPERlOLIVEfFLATBREADjTAMALEgFONDUEgTEAPOTgPOURING LIQUIDoBEANSfJAR",
    "1fae0:dMELTING FACEmSALUTING FACE;1fae5:nDOTTED LINE FACEqBITING LIPjUBBLES",
    "1faf0:hHAND#INDEX FINGER*THUMB CROSSED;1faf3:boPALM DOWN HANDjUP HANDmINDEX POINTING AT THE VIEWERbcHEART HANDS",
    "1fb69:l=*LOWER*) TRIANGULAR THREE QUARTERS BLOCK;1fb6b:bvUPPER*) TRIANGULAR THREE QUARTERS BLOCK",
    "bzTRIANGULAR ONE QUARTER BLOCK;1fb6e:bh) TRIANGULAR ONE QUARTER BLOCK;1fb70:bi_ ONE EIGHTH BLOCK-2b3b4b5b6b7",
    "1fb7c:bb=*LOWER ONE EIGHTH BLOCKwUPPER ONE EIGHTH BLOCKbf)*UPPER ONE EIGHTH BLOCKwLOWER ONE EIGHTH BLOCK",
    "1fb87:baONE QUARTER BLOCKrTHREE EIGHTHS BLOCKtFIVE EIGHTHS BLOCKsTHREE QUARTERS BLOCKuSEVEN EIGHTHS BLOCK",
    "1fb8d:tHALF MEDIUM SHADE;1fb90:xINVERSE MEDIUM SHADE;1fb95:uCHECKER BOARD FILLsINVERSE CHECKER BOARD FILL",
    "1fb9b:ba=*) TRIANGULAR HALF BLOCK;1fbb0:bkARROWHEAD-SHAPED POINTERyINVERSE CHECK|;1fbb3:s) HALF RUNNING MAN",
    "wINVERSE DOWN,&#TIP =,;1fbba:bq) HALF FOLDERrVOIDED GREEK CROSSs) OPEN SQUARED DOT",
    "1fbc1:w= THIRD WHITE ) POINTING INDEXblMIDDLE THIRD WHITE ) POINTING INDEXbn) THIRD WHITE ) POINTING INDEX",
    "1fbc5:bmSTICK FIGUREa#ARMS RAISEDqLEANING =e)nWITH DRESS;1fbf0:wEGMENTED DIGIT ZEROeONEdTWOcHREEfFOURdIVEeSIX",
    "cEVENfEIGHTfNINE;e0001:uLANGUAGE TAG;e007f:mCANCEL TAG"]

end Vetted.Text.CharacterName
