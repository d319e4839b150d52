namespace Vetted.Text.CharacterName

def syllables : List String :=
  ["1000:aMYANMAR!KAbHAdGAbHAdNGAdCAbHAdJAbHAdNYAcNYAeTTAbHAeDDAbHAeNNAdTAbHAdDAbHAdNAcPAbHAdBAbHAdMAcYAcRAcLAcWA",
    "cSAcHAcLLAdAbSHAN AgIaIcUaUcEbMON EfObAUjVOWEL. TALL AAhAAcIaIcUaUcEbAIcMON IIcOfE+sSIGN ANUSVARAiDOT?jVISARGA",
    "fRAMAgASATjCONSONANT. MEDIAL YAcRAcWAcHAyLETTER GREAT SApDIGIT ZEROeONEdTWOcHREEfFOURdIVEeSIXcEVENfEIGHTfNINE",
    "kSIGN LITTLE SECTIONoSECTIONlYMBOL LOCATIVEiCOMPLETEDjAFOREMENTIONEDoGENITIVEpLETTER SHAcSAdVOCALIC RaRcLaL",
    "rVOWEL. VOCALIC RaRcLaLvLETTER MON NGAdJHAdBBAbEoCONSONANT. MON MEDIAL NAcMAcLAbcLETTER SGAW KAREN SHA",
    "vVOWEL. SGAW KAREN EUyTONE| SGAW KAREN HATHIfKE PHObbLETTER WESTERN PWO KAREN THAdPWA",
    "bcVOWEL. WESTERN PWO KAREN EUcUEbfSIGN WESTERN PWO KAREN TONE-1b2b3b4b5bdLETTER EASTERN PWO KAREN NNAdYWAdGHWA",
    "bdVOWEL. GEBA KAREN ImKAYAH OEcUbEEtLETTER SHAN KAbHAdGAcCAcZAcNYAdDAcNAcPHAdFAcBAcTHAdHA",
    "oCONSONANT. SHAN MEDIAL WAbdVOWEL. SHAN AAcEa+h^ YxSIGN SHAN TONE-2b3b5b6gCOUNCIL TONE-2b3gEMPHATIC TONE",
    "bfLETTER RUMAI PALAUNG FAxSIGN RUMAI PALAUNG TONE-5yHAN DIGIT ZEROeONEdTWOcHREEfFOURdIVEeSIXcEVENfEIGHTfNINE",
    "oIGN KHAMTI TONE-1b3sVOWEL. AITON AaItSYMBOL SHAN ONEdEXCLAMATIONbfGEORGIAN $!ANcBANdGANdDONdENcVINdZENdTANdIN",
    "cKANdLASdMANdNARdONcPARdZHAReRAEdSANdTARdUNcPHAReKHAReGHANeQARdSHINeCHINdANdJILdCILcHAReXANdJHANeHAEcEbIEdWE",
    "cHARcOE;10c7:dYN;10cd:cAEN;10d0:sLETTER ANcBANdGANdDONdENcVINdZENdTANdINcKANdLASdMANdNARdONcPARdZHAReRAEdSAN",
    "dTARdUNcPHAReKHAReGHANeQARdSHINeCHINdANdJILdCILcHAReXANdJHANeHAEcEbIEdWEcHARcOEdFIcYNcELIFIfTURNED GANkAIN",
    "kPARAGRAPH SEPARATOR;10fd:tLETTER AENdHARD.jLABIAL.bbHANGUL CHOSEONG KIYEOKgSSANGKIYEOKlNIEUNfTIKEUT",
    "gSSANGTIKEUTlRIEULfMIEUMfPIEUPfSSANGPIEUPjIOSdSANGSIOSjIEUNGfCIEUCfSSANGCIEUCkCHIEUCHhKHIEUKHhTHIEUTHhPHIEUPH",
    "hHIEUHfNIEUN-KIYEOKmSSANGNIEUNkNIEUN-TIKEUTgPIEUPlTIKEUT-KIYEOKnRIEUL-NIEUNlSSANGRIEULkRIEUL-HIEUH",
    "lKAPYEOUNRIEULnMIEUM-PIEUPlKAPYEOUNMIEUMnPIEUP-KIYEOKgNIEUNfTIKEUTgSIOSa-KIYEOKgTIKEUTgPIEUPjSANGSIOSiIOS-CIEUC",
    "kCIEUCeHIEUCHhTHIEUTHhPHIEUPHnKAPYEOUNPIEUPfSSANGPIEUPsSIOS-KIYEOKgNIEUNfTIKEUTgRIEULfMIEUMfPIEUPa-KIYEOK",
    "mSSANGSIOSjIEUNGfCIEUCeHIEUCHhKHIEUKHhTHIEUTHhPHIEUPHhHIEUHkCHITUEUMSIOSdSANGSIOSqEONGCHIEUMSIOSdSANGSIOS",
    "uPANSIOShIEUNG-KIYEOKgTIKEUTgMIEUMfPIEUPfSIOSePANSIOSnSSANGIEUNGkIEUNG-CIEUCeHIEUCHhTHIEUTHhPHIEUPHnYESIEUNG",
    "iCIEUC-IEUNGkHITUEUMCIEUCfSSANGCIEUCrEONGCHIEUMCIEUCfSSANGCIEUCuHIEUCH-KHIEUKHhHIEUHkTUEUMCHIEUCH",
    "oEONGCHIEUMCHIEUCHsPHIEUPH-PIEUPnKAPYEOUNPHIEUPHpSSANGHIEUHkYEORINHIEUHlKIYEOK-TIKEUTnNIEUN-SIOSeCIEUCfHIEUH",
    "lTIKEUT-RIEULmFILLERpJUNGSEONG FILLERgAaEcYAaEdEOcEbYEOcEcObWAaEdOEcYOcUbWEOcEbIcYUcEUcYIcIbA-ObUdYA-ObYOfEO-O",
    "bUbEUfYEO-ObUfO-EOcEbYEcObUdYO-YAaEcEOdObIeU-AaEcEO-EUfYEcUdYU-AbEOcEbYEOcEcUbIeEU-UbEUfYI-UeI-AbYAcObUbEU",
    "cARAEAhARAEAa-EOcUbIhSSANGARAEAkA-EUeYA-UdEO-YAgO-YAaEoONGSEONG KIYEOKgSSANGKIYEOKlKIYEOK-SIOSlNIEUNa-CIEUC",
    "fHIEUHlTIKEUTgRIEULa-KIYEOKgMIEUMfPIEUPfSIOSeTHIEUTHhPHIEUPHhHIEUHlMIEUMfPIEUPa-SIOSkSIOSdSANGSIOSjIEUNGfCIEUC",
    "eHIEUCHhKHIEUKHhTHIEUTHhPHIEUPHhHIEUHfKIYEOK-RIEULfSIOS-KIYEOKsNIEUN-KIYEOKgTIKEUTgSIOSePANSIOShTHIEUTH",
    "nTIKEUT-KIYEOKgRIEULmRIEUL-KIYEOK-SIOSlNIEUNfTIKEUTa-HIEUHsSSANGRIEULkRIEUL-MIEUM-KIYEOKgSIOSkPIEUP-SIOSeHIEUH",
    "lKAPYEOUNPIEUPnSSANGSIOSjPANSIOShKHIEUKHhYEORINHIEUHrMIEUM-KIYEOKgRIEULfPIEUPfSIOSdSANGSIOSjPANSIOShCHIEUCH",
    "hHIEUHlKAPYEOUNMIEUMnPIEUP-RIEULfPHIEUPHhHIEUHlKAPYEOUNPIEUPnSIOS-KIYEOKgTIKEUTgRIEULfPIEUPkPANSIOS",
    "hIEUNG-KIYEOKgSSANGKIYEOKrSSANGIEUNGkIEUNG-KHIEUKHnYESIEUNGa-SIOSePANSIOSqPHIEUPH-PIEUPnKAPYEOUNPHIEUPH",
    "pHIEUH-NIEUNfRIEULfMIEUMfPIEUPlYEORINHIEUHlKIYEOK-NIEUNfPIEUPfCHIEUCHhKHIEUKHhHIEUHmSSANGNIEUN",
    "bbETHIOPIC SYLLABLE HAbUbIbAAcEEcEbOaAdLAbUbIbAAcEEcEbObWAdHHAbUbIbAAcEEcEbObWAeMAbUbIbAAcEEcEbObWAdSZAbUbIbAA",
    "cEEcEbObWAeRAbUbIbAAcEEcEbObWAdSAbUbIbAAcEEcEbObWAcHAbUbIbAAcEEcEbObWAeQAbUbIbAAcEEcEbOaAcWA;124a:bIbAAcEEcE",
    "1250:cHAbUbIbAAcEEcEbO;1258:bWA;125a:bIbAAcEEcE;1260:eBAbUbIbAAcEEcEbObWAdVAbUbIbAAcEEcEbObWAdTAbUbIbAAcEEcEbO",
    "bWAdCAbUbIbAAcEEcEbObWAdXAbUbIbAAcEEcEbOaAcWA;128a:bIbAAcEEcE;1290:dNAbUbIbAAcEEcEbObWAcYAbUbIbAAcEEcEbObWA",
    "eGLOTTAL AbUbIbAAcEEcEbObWAkKAbUbIbAAcEEcEbOaAcWA;12b2:bIbAAcEEcE;12b8:cXAbUbIbAAcEEcEbO;12c0:bWA;12c2:bIbAAcEE",
    "cE;12c8:eWAbUbIbAAcEEcEbOaAdPHARYNGEAL AbUbIbAAcEEcEbO;12d8:mZAbUbIbAAcEEcEbObWAcHAbUbIbAAcEEcEbObWAeYAbUbIbAA",
    "cEEcEbOaAdDAbUbIbAAcEEcEbObWAcDAbUbIbAAcEEcEbObWAeJAbUbIbAAcEEcEbObWAdGAbUbIbAAcEEcEbOaAcWA;1312:bIbAAcEEcE",
    "1318:cGAbUbIbAAcEEcEbObWAAfTHAbUbIbAAcEEcEbObWAeCHAbUbIbAAcEEcEbObWAePHAbUbIbAAcEEcEbObWAeTSAbUbIbAAcEEcEbObWA",
    "dZAbUbIbAAcEEcEbOaAeFAbUbIbAAcEEcEbObWAdPAbUbIbAAcEEcEbObWAdRYAdMYAdFYA",
    "135d:mCOMBINING GEMINATION*VOWEL LENGTH|bgVOWEL LENGTH|rGEMINATION|zSECTION|mWORDSPACEjFULL STOPjCOMMA",
    "fSEMICOLONjCOLONfPREFACE COLONnQUESTION|nPARAGRAPH SEPARATORtDIGIT ONEdTWOcHREEfFOURdIVEeSIXcEVENfEIGHTfNINE",
    "kNUMBER TENcWENTYfHIRTYgFORTYeIFTYfSIXTYeEVENTYhEIGHTYgNINETYgHUNDREDhTEN THOUSAND;1380:tSYLLABLE SEBATBEIT MWA",
    "nMWIbEEcEdSEBATBEIT BWAnBWIbEEcEdSEBATBEIT FWAnFWIbEEcEdSEBATBEIT PWAnPWIbEEcEmTONAL| YIZETfDERETfRIKRIK",
    "gSHORT RIKRIKmDIFATfKENATfCHIRETgHIDETfDERET-HIDETlKURT;13a0:yCHEROKEE!AbEbIbObUbVbGAcKAcGEbIbObUbVcHAbEbIbObU",
    "bVcLAbEbIbObUbVcMAbEbIbObUcNAcHNAdNAHcEbIbObUbVcQUAbEbIbObUbVdSAcSaEbIbObUbVcDAcTAcDEcTEcDIcTIcDObUbVbLAdTLAbE",
    "bIbObUbVcSAbEbIbObUbVdWAbEbIbObUbVcYAbEbIbObUbVcMV;13f8:j%!YEbIbObUbVcMV;1400:xANADIAN SYLLABICS HYPHENgEbAAIdI",
    "aIcOaOcY-CREE OOjCARRIER EEcIjAaAcWEaST-CREE WElIbEST-CREE WIlIIcEST-CREE WIImObEST-CREE WOlOOcEST-CREE WOO",
    "nNASKAPI WOOlWAbEST-CREE WAlAAcEST-CREE WAAnNASKAPI WAAlAIcY-CREE WiGLOTTAL STOPm^ ACUTEfGRAVEfBOTTOM HALF RING",
    "qTOP HALF RINGn) HALF RINGnNGe> ACUTEfSHORT _ STROKESbdMIDDLE DOTkSHORT HORIZONTAL STROKExPLUSeDOWN TACKpENcIN",
    "cONcANcPEbAAIdIaIcOaOdY-CREE POOkCARRIER HEEcIkPAaAcWEdWEST-CREE PWEnPWIdWEST-CREE PWInPWIIeWEST-CREE PWIIoPWO",
    "dWEST-CREE PWOnPWOOeWEST-CREE PWOOoPWAdWEST-CREE PWAnPWAAeWEST-CREE PWAAoY-CREE PWAAlPbWEST-CREE PlCARRIER HjTE",
    "bAAIdIaIcOaOdY-CREE TOOkCARRIER DEEcIkTAaAcWEdWEST-CREE TWEnTWIdWEST-CREE TWInTWIIeWEST-CREE TWIIoTWO",
    "dWEST-CREE TWOnTWOOeWEST-CREE TWOOoTWAdWEST-CREE TWAnTWAAeWEST-CREE TWAAoNASKAPI TWAAmTaTEbIbObAdKEbAAIdIaIcOaO",
    "dY-CREE KOOkKAaAcWEdWEST-CREE KWEnKWIdWEST-CREE KWInKWIIeWEST-CREE KWIIoKWOdWEST-CREE KWOnKWOOeWEST-CREE KWOO",
    "oKWAdWEST-CREE KWAnKWAAeWEST-CREE KWAAoNASKAPI KWAAmKaWcSOUTH-SLAVEY KEHcIHcOHcAHqCEbAAIdIaIcOaOdY-CREE COOkCA",
    "aAcWEdWEST-CREE CWEnCWIdWEST-CREE CWInCWIIeWEST-CREE CWIIoCWOdWEST-CREE CWOnCWOOeWEST-CREE CWOOoCWA",
    "dWEST-CREE CWAnCWAAeWEST-CREE CWAAoNASKAPI CWAAmCbSAYISI THjMEbAAIdIaIcOaOdY-CREE MOOkMAaAcWEdWEST-CREE MWEnMWI",
    "dWEST-CREE MWInMWIIeWEST-CREE MWIIoMWOdWEST-CREE MWOnMWOOeWEST-CREE MWOOoMWAdWEST-CREE MWAnMWAAeWEST-CREE MWAA",
    "oNASKAPI MWAAmMbWEST-CREE MlMHcATHAPASCAN MmSAYISI MiNEbAAIdIaIcOaOdY-CREE NOOkNAaAcWEdWEST-CREE NWEnNWA",
    "dWEST-CREE NWAnNWAAeWEST-CREE NWAAoNASKAPI NWAAmNbCARRIER NGkNHcLEbAAIdIaIcOaOdY-CREE LOOkLAaAcWEdWEST-CREE LWE",
    "nLWIdWEST-CREE LWInLWIIeWEST-CREE LWIIoLWOdWEST-CREE LWOnLWOOeWEST-CREE LWOOoLWAdWEST-CREE LWAnLWAA",
    "eWEST-CREE LWAAoLbWEST-CREE LlMEDIAL LiSEbAAIdIaIcOaOdY-CREE SOOkSAaAcWEdWEST-CREE SWEnSWIdWEST-CREE SWInSWII",
    "eWEST-CREE SWIIoSWOdWEST-CREE SWOnSWOOeWEST-CREE SWOOoSWAdWEST-CREE SWAnSWAAeWEST-CREE SWAAoNASKAPI SWAAmS",
    "bATHAPASCAN SmSWcBLACKFOOT SlMOOSE-CREE SKnNASKAPI SKWc-WcPWAdTWAdKWAdCWAmSHEbIaIcOaOcAaAcWEeWEST-CREE SHWE",
    "oSHWIeWEST-CREE SHWIoSHWIIfWEST-CREE SHWIIpSHWOeWEST-CREE SHWOoSHWOOfWEST-CREE SHWOOpSHWAeWEST-CREE SHWAoSHWAA",
    "fWEST-CREE SHWAApSHcYEbAAIdIaIcOaOc-CREE YOOjAaAcWEdWEST-CREE YWEnYWIdWEST-CREE YWInYWIIeWEST-CREE YWIIoYWO",
    "dWEST-CREE YWOnYWOOeWEST-CREE YWOOoYWAdWEST-CREE YWAnYWAAeWEST-CREE YWAAoNASKAPI YWAAmYbBIBLE-CREE Y",
    "mWEST-CREE YlSAYISI YIjREb-CREE REjWEST-CREE LEmRAAIdIaIcOaOdWEST-CREE LOmRAaAdWEST-CREE LAmRWAAeWEST-CREE RWAA",
    "oRbWEST-CREE RlMEDIAL RiFEbAAIdIaIcOaOcAaAcWAAeWEST-CREE FWAAoFbTHEdN-CREE THEkTHIdN-CREE THIkTHIIeN-CREE THII",
    "lTHOaOcAaAcWAAfWEST-CREE THWAApTHbTHEbIbObAcHcYEbIbObAdNUNAVIK HEbIaIcOaOcAaAdHeUT HjHKcQAAIdIaIcOaOcAaAdQbTLHE",
    "bIbObAeWEST-CREE REbIbObAmNGAAIdIaIcOaOcAaAdGbNGdSAYISI SHEbIbObAkWOODS-CREE THEbIbObAcHnLHIaIcOaOcAaAdH",
    "cTH-CREE THEbIaIcOaOcAaAdHkAIVILIK BjBLACKFOOT EbIbObAbWEbIbObAcNEbIbObAcKEbIbObAmSAYISI HEbIbObAjCARRIER GHUbO",
    "bEaEcIbAdRUbObEaEcIbAcWUbObEaEcIbAcHWUbObEaEcIbAdTHUbObEaEcIbAcTUbObEaEcIbAdPUbObEaEcIbAcPbGUbObEaEcIbAcKHUbObE",
    "aEcIbAcKUbObEaEcIbAcKcNUbObEaEcIbAcMUbObEaEcIbAcYUbObEaEcIbAcJUkSAYISI JUjCARRIER JObEaEcIkSAYISI JIjCARRIER JA",
    "bJUbObEaEcIbAdLUbObEaEcIbAcDLUbObEaEcIbAdLHUbObEaEcIbAdTLHUbObEaEcIbAcUbObEaEcIbAdZUbObEaEcIbAcZbINITIAL ZjDZU",
    "bObEaEcIbAdSUbObEaEcIbAbHUbObEaEcIbAcHcTSUbObEaEcIbAdCHUbObEaEcIbAdTTSUbObEaEcIbAlHI.iFULL STOPjQAIdNGAIdNGIaI",
    "cOaOcAaAfWOODS-CREE THWEEcIaIcOaOcAaAf^ THtBLACKFOOT WbeOGHAM SPACE|kLETTER BEITHfLUISeFEARNfSAILeNIONeUATH",
    "eDAIReTINNEfCOLLdEIRTfMUINeGORTeNGEADALhSTRAIFgRUISeAILMeONNdURcEADHADHhIODHADHhEABHADHhORcUILLEANNiIFIN",
    "eEAMHANCHOLLlPEITHmFEATHER|mREVERSED FEATHER|;16a0:bbRUNIC!FEHU FEOH FE FoVbURUZ UR UjYRcYbW",
    "bTHURISAZ THURS THORNuETHdANSUZ AhOS OeAC AdESCeLONG-BRANCH-OSS OrSHORT-TWIG-OSS OqOaEbNcRAIDO RAD REID RqKAUNA",
    "fCENdKAUN KgGbENGdGEBO GYFU GkARdWUNJO WYNN WmHAGLAZ HgEGL HhLONG-BRANCH-HAGALL HuSHORT-TWIG-HAGALL H",
    "tNAUDIZ NYD NAUD NrSHORT-TWIG-NAUD NrDOTTED-NiISAZ IS ISS InEbJERAN JhGERdLONG-BRANCH-AR AErSHORT-TWIG-AR A",
    "pIWAZ EOHiPERTHO PEORTH PpALGIZ EOLHXlSOWILO ShIGEL LONG-BRANCH-SOL SwHORT-TWIG-SOL SqCbZbTIWAZ TIR TYR T",
    "pSHORT-TWIG-TYR TqDbBERKANAN BEORC BJARKAN BySHORT-TWIG-BJARKAN BuDOTTED-PiOPEN-PgEHWAZ EH EkMANNAZ MAN M",
    "mLONG-BRANCH-MADR MsSHORT-TWIG-MADR MrLAUKAZ LAGU LOGR LsDOTTED-LiINGWAZeGdDAGAZ DAEG DmOTHALAN ETHEL OpEARdIOR",
    "dCWEORTHgALCdEALCfSTANeLONG-BRANCH-YRoSHORT-TWIG-YRnICELANDIC-YRmQbXiSINGLE PUNCTUATIONsMULTIPLE PUNCTUATION",
    "uCROSS PUNCTUATIONrARLAUG~nTVIMADUR~pBELGTHOR~pLETTER KbSHcOOcFRANKS CASKET OScIScEHcACbESC;1700:bfTAGALOG!AbI",
    "bUbKAcGAcNGAdTAcDAcNAcPAcBAcMAcYAcRAcLAcWAcSAcHAjVOWEL. IbUmSIGN VIRAMAgPAMUDPOD;171f:nLETTER ARCHAIC RA",
    "zHANUNOO!AbIbUbKAcGAcNGAdTAcDAcNAcPAcBAcMAcYAcRAcLAcWAcSAcHAjVOWEL. IbUmSIGN PAMUDPOD;1740:vBUHID!AbIbUbKAcGA",
    "cNGAdTAcDAcNAcPAcBAcMAcYAcRAcLAcWAcSAcHAjVOWEL. IbU;1760:sTAGBANWA!AbIbUbKAcGAcNGAdTAcDAcNAcPAcBAcMAcYA",
    "176e:cLAcWAcSA;1772:jVOWEL. IbU;1780:vKHMER!KAbHAcObHOdNGOdCAbHAcObHOdNYOdDAcTTHAeDOcTTHOeNNOdTAbHAcObHOdNOcBA",
    "cPHAcObHOdMOcYOcROcLOcVOcSHAcSOcAcHAcLAcQAjINDEPENDENT VOWEL QAQbAcIaIcUaKbUaVeRYaYdLYaYdQEbAIcOO TYPE ONEdTWO",
    "lAUvVOWEL INHERENT AQbAlSIGN AAcIaIcYaYcUaUbAcOEcYAcIEcEbAEbIcOOcAUnSIGN NIKAHIThREAHMUKhYUUKALEAPINTU",
    "nMUUSIKATOANlTRIISAPhBANTOCgROBATfTOANDAKHIATlKAKABAThAHSDAfSAMYOK SANNYAnVIRIAMgCOENGfBATHAMASATkKHAN",
    "eBARIYOOSANkCAMNUC PII KUUHpLEK TOOhBEYYALgPHNAEK MUANlKOOMUUTmCURRENCY~ RIELuSIGN AVAKRAHASANYAmTTHACAN",
    "17e0:nDIGIT ZEROeONEdTWOcHREEfFOURdIVEeSIXcEVENfEIGHTfNINE;17f0:kSYMBOL LEK ATTAK SONdMUOYePIIdBEIcUONePRAM",
    "a-MUOYePIIdBEIcUON;1800:bgMONGOLIAN BIRGAfELLIPSISiCOMMAfFULL STOPjCOLONfFOUR DOTSjTODO SOFT HYPHEN",
    "qSIBE SYLLABLE BOUNDARY|ERbdMANCHU COMMAfFULL STOPqNIRUGUgFREE VARIATION SELECTOR ONEdTWOcHREEbdVOWEL SEPARATOR",
    "pFREE VARIATION SELECTOR FOURbcDIGIT ZEROeONEdTWOcHREEfFOURdIVEeSIXcEVENfEIGHTfNINE;1820:kLETTER AbEbIbObUbOE",
    "cUEcEEcNAcANGdBAcPAcQAcGAcMAcLAcSAbHAdTAcDAcCHAdJAcYAcRAcWAcFAcKAbHAdTSAdZAcHAAdZRAdLHAdZHIdCHI",
    "dTODO LONG VOWEL.pEbIbObUbOEcUEcANGdBAcPAcQAcGAcMAcTAcDAcCHAdJAcTSAdYAcWAcKAcGAAdHAAdJIAdNIAdDZAiSIBE EbIaYcUE",
    "cUbANGdKAcGAcHAcPAcSHAdTAcDAcJAcFAcGAAdHAAdTSAdZAcRAAdCHAdZHAiMANCHU IbKAcRAcFAcZHAkCHA#TWO DOTS",
    "1880:rALI GALI ANUSVARA ONEmVISARGA ONElDAMARUgUBADAMAhINVERTED UBADAMAqBALUDAgTHREE BALUDAmAbIbKAcNGAdCAcTTA",
    "bHAeDDAdNNAdTAcDAcPAbHAdSSAdZHAcAcAHlTODO ALI GALI TAcZHArMANCHU ALI GALI GHAdNGAdCAcJHAdTTAdDDHAeTAcDHAdSSA",
    "dCYAdZHAcAsALI GALI HALF UbYAqMANCHU ALI GALI BHAtALI GALI DAGALGAqMANCHU ALI GALI LHA",
    "18b0:bkCANADIAN SYLLABICS OYcAYbAYdWAYdPOYcAYcWOYeTAYdKAYcWAYeMAYdNOYcAYdLAYdSOYcAYcHOYcAYcWOYfYOYcAYdRAYdNWI",
    "dOJIBWAY NWIlNWIIeOJIBWAY NWIImNWOdOJIBWAY NWOlNWOOeOJIBWAY NWOOmRWEEcIaIcOaOcAdOJIBWAY PbTbKbCbMbNbSaH",
    "kEASTERN WjWESTERN Wj^ % RINGkRAISED DOTqR-CREE RWEkWEST-CREE LOOcAAnTHWEbAdTHWEcOOcAAeLHWEcOOfSAYISI SHWEcOO",
    "eHOOkCARRIER GWUdDENE GEEiGAAcWAlSAYISI JUUkCARRIER JWAlBEAVER DENE LbRnCARRIER DENTAL S",
    "1900:bjLIMBU VOWEL-CARRIER LETTERuLETTER KAbHAdGAbHAdNGAdCAbHAdJAbHAdYANdTAbHAdDAbHAdNAcPAbHAdBAbHAdMAcYAcRAcLA",
    "cWAcSHAcSAcAcHAcGYANeTRA;1920:kVOWEL. AbIbUbEEcAIcOOcAUcEbOmSUBJOINED!YAcRAcWA;1930:sMALL!KAcNGAdANUSVARAiTAcNA",
    "cPAcMAcRAcLAoIGN MUKPHRENGjKEMPHRENGjSA-I;1940:eLOO;1944:iEXCLAMATION|qQUESTION|nDIGIT ZEROeONEdTWOcHREEfFOUR",
    "dIVEeSIXcEVENfEIGHTfNINEqTAI LE!KAcXAcNGAdTSAdSAcYAcTAbHAdLAcPAbHAdMAcFAcVAcHAcQAcKHAdTSHAeNAcAbIbEEbHcUbOOcO",
    "bUEcEbAUEcI;1970:cTONE-2b3b4b5b6;1980:uNEW TAI LUE!HIGH QAhLOW QAgHIGH KAcXAcNGAiLOW KAcXAcNGAhHIGH TSAdSAcYA",
    "hLOW TSAdSAcYAgHIGH TAbHAdNAhLOW TAbHAdNAgHIGH PAbHAdMAhLOW PAbHAdMAgHIGH FAcVAcLAhLOW FAcVAcLAgHIGH HAcDAcBA",
    "hLOW HAcDAcBAgHIGH KVAdXVAiLOW KVAdXVAhHIGH SUAiLOW SUA;19b0:oVOWEL. VOWEL SHORTENERpAAcIIcUaUcEbAEcOaAcUEcAY",
    "bAYdUYcOYbAYdUEYdIYnLETTER ^ VbNGcNbMbKbDbBoTONE|-1b2;19d0:lDIGIT ZEROeONEdTWOcHREEfFOURdIVEeSIXcEVENfEIGHT",
    "fNINEkTHAM DIGIT ONE;19de:oSIGN LAEaVvKHMER~ PATHAMASATkMUOY KOETjPII KOETiBEI KOEThUON KOETjPRAM KOET",
    "f-MUOY KOETjPII KOETiBEI KOEThUON KOEToDAP KOETf-MUOY KOETjPII KOETiBEI KOEThUON KOETjPRAM KOETnTUTEYASAT",
    "jMUOY ROCiPII ROChBEI ROCgUON ROCiPRAM ROCe-MUOY ROCiPII ROChBEI ROCgUON ROCnDAP ROCe-MUOY ROCiPII ROChBEI ROC",
    "gUON ROCiPRAM ROCzBUGINESE!KAcGAcNGAbKAePAcBAcMAbPAdTAcDAcNAbRAdCAcJAcNYAbCAeYAcRAcLAcVAcSAcAbHAjVOWEL. IbUbEbO",
    "bAE;1a1e:nPALLAWAhEND OF SECTIONxTAI THAM!HIGH KAbHAcXAiLOW KAbXAcHAhNGAdHIGH CAbHAiLOW CAcSAcCHAhNYAdRATA",
    "eHIGH RATHAkDAcLOW RATHAjRANAeHIGH TAbHAiLOW TAbHAhNAcBAcHIGH PAbHAdFAhLOW PAcFAcPHAhMAcLOW YAgHIGH YAhRAbUEdLA",
    "bUEdWAcHIGH SHAcSAcAcHAhLLAdAbLOW HAgIaIcUaUcEEcOOcLAEdGREAT SApCONSONANT. MEDIAL RAcLAjLA TANG LAI",
    "baSIGN MAI KANG LAIrCONSONANT. ^ NGAjLOW PAgHIGH RATHA OR LOW PAuMAcBAcSA;1a60:rSIGN SAKOTkVOWEL. AbMAI SAThAA",
    "cTALL AAhIaIcUEbUEdUaUcOaA?hYcEbAEcOOcAIcTHAM AIhOA+tSIGN MAI KANGiTONE-1b2gKHUEN TONE-3b4b5mRA HAAMhMAI SAM",
    "hKHUEN-LUE KARAN;1a7f:uCOMBINING CRYPTOGRAMMIC DOTbbHORA DIGIT ZEROeONEdTWOcHREEfFOURdIVEeSIXcEVENfEIGHTfNINE",
    "1a90:pTHAM DIGIT ZEROeONEdTWOcHREEfFOURdIVEeSIXcEVENfEIGHTfNINE;1aa0:pSIGN WIANGaWAAKjSAWANfKEOWeHOYdDOKMAI",
    "gREVERSED ROTATED RANAvMAI YAMOKjKAANaKUUhSATKAANaKUUkHANGeCAANG;1b00:tBALINESE. ULU RICEMfCANDRAkCECEKfSURANG",
    "gBISAHkLETTER AKARAa TEDUNGmIKARAa TEDUNGmUKARAa TEDUNGmRA REPAa TEDUNGoLA LENGAa TEDUNGpEKARAfAIKARAgOKARA",
    "a TEDUNGmKAa MAHAPRANAmGAa GORAhNGAdCAa LACAhJAa JERAhNYAdTA LATIKfMURDA MAHAPRANAsDA MURDA ALPAPRANAjMAHAPRANA",
    "sNA RAMBATjTAa TAWAhDAa MADUhNAcPAa KAPALiBAa KEMBANGkMAcYAcRAcLAcWAcSA SAGAcPAgAcHAjSIGN REREKANmVOWEL. TEDUNG",
    "gULUa SARIiSUKUa ILUTjRA REPAa TEDUNGoLA LENGAa TEDUNGpTALINGa REPAeTEDUNGgREPA TEDUNGsPEPETa TEDUNGxADEG ADEG",
    "jLETTER KAF SASAKiHOT SASAKkTZIR SASAKkEF SASAKiVE SASAKiZAL SASAKjASYURA SASAKlRCHAIC JNYA;1b50:tDIGIT ZERO",
    "eONEdTWOcHREEfFOURdIVEeSIXcEVENfEIGHTfNINEkPANTIdMADAgWINDUfCARIK PAMUNGKAHjSIKIePARERENnPAMENENGiMUSICAL~ DONG",
    "dENGdUNGdANGa SURANGkINGdAENGeEUNGeAINGdNG GEDEjCOMBINING TEGEHfENDEPfKEMPULcLIgJEGOGANhKEMPUL#JEGOGAN",
    "pLI#JEGOGANtBENDEfGONGo)-HAND OPEN DUGcAGiCLOSED TUKcAKv=-HAND OPEN PANGdUNGjCLOSED PLAKcUKlOPEN PING",
    "biPANTI LANTANGlMADA LANTANG;1b80:xSUNDANESE. PANYECEKfGLAYARfWISADoLETTER AbIbUbAEcObEaUcKAcQAcGAcNGAdCAcJAcZA",
    "cNYAdTAcDAcNAcPAcFAcVAcBAcMAcYAcRAcLAcWAcSAcXAcHAjCONSONANT. PAMINGKALhNYAKRAeIKUwVOWEL. PANGHULUfYUKUeAELAENG",
    "hOLONGgMEPETfNEULEUNGvSIGN PAMAAEHhVIRAMAlCONSONANT. PASANGAN MAcWAbaLETTER KHAdSYAkDIGIT ZEROeONEdTWOcHREE",
    "fFOURdIVEeSIXcEVENfEIGHTfNINEkAVAGRAHAiLETTER REUdLEUdBHAd^ KbMyBATAK!AbSIMALUNGUN AmHAcSIMALUNGUN HA",
    "nMANDAILING HAnBAcKARO BAhPAcSIMALUNGUN PAnNAcMANDAILING NAnWAcSIMALUNGUN WAnPAKPAK WAjGAcSIMALUNGUN GAnJAcDA",
    "cRAcSIMALUNGUN RAnMAcSIMALUNGUN MAmOUTHERN TAlNORTHERN TAlSAbIMALUNGUN SAnMANDAILING SAnYAcSIMALUNGUN YAnNGAdLA",
    "cSIMALUNGUN LAnNYAdCAcNDAdMBAdIbUiSIGN TOMPIkVOWEL. EbPAKPAK EiEEcIbKARO IgObKARO OgUa FOR SIMALUNGUN SA",
    "beCONSONANT. NGcHqPANGOLATfONGONAN;1bfc:kSYMBOL BINDU NA METEKiPINARBORASkJUDULfPANGOLATbbLEPCHA!KAbLAcHAdGAbLA",
    "dNGAdCAbHAdJAcNYAdTAbHAdDAcNAcPAbLAcHAdFAbLAdBAbLAdMAbLAdTSAbHAeDZAdYAcRAcLAcHAbLAdVAcSAbHAdWAcAiSUBJOINED!YA",
    "cRAtVOWEL. AAcIbOaOcUaUcEmCONSONANT. KbMbLbNbPbRbTbNYIN-DOhKANGtSIGN RANdNUKTA;1c3b:kPUNCTUATION TA-ROL",
    "gNYET THYOOM TA-ROLsCER-WAgTSHOOK CER-WAiKsDIGIT ZEROeONEdTWOcHREEfFOURdIVEeSIXcEVENfEIGHTfNINE",
    "1c4d:kLETTER TTAbHAeDDArOL CHIKI DIGIT ZEROeONEdTWOcHREEfFOURdIVEeSIXcEVENfEIGHTfNINEkLETTER LAcATbGbNGcLcLAA",
    "dAAKbJbMbWdLIcISbHbNYcRcLUcUCbDbNNcYcLEcEPbDDcNbRRdLOcOTTcBbVbHjMU TTUDDAGkGAAHLAA TTUDDAAGqMU-GAAHLAA TTUDDAAG",
    "tRELAAfPHAARKAAiAHADePUNCTUATION MUCAADg> MUCAAD;1c90:biGEORGIAN MTAVRULI $!ANcBANdGANdDONdENcVINdZENdTANdIN",
    "cKANdLASdMANdNARdONcPARdZHAReRAEdSANdTARdUNcPHAReKHAReGHANeQARdSHINeCHINdANdJILdCILcHAReXANdJHANeHAEcEbIEdWE",
    "cHARcOEdFIcYNcELIFIfTURNED GANkAIN;1cbd:cENdHARD.jLABIAL.bsSUNDANESE PUNCTUATION BINDU SURYAfPANGLONGhURNAMA",
    "hCAKRAfLEU SATANGAlKA SATANGAkDA SATANGAkBA SATANGA;1cd0:bmVEDIC TONE KARSHANAiSHARAfPRENKHAmSIGN NIHSHVASA",
    "jYAJURVEDIC MIDLINE SVARITAbfTONE YAJURVEDIC AGGRAVATED INDEPENDENT SVARITAbeINDEPENDENT SVARITA",
    "tKATHAKA INDEPENDENT SVARITAbmCANDRA?mYAJURVEDIC KATHAKA INDEPENDENT SVARITA SCHROEDERbw> SVARITA",
    "oTRIPLE SVARITAoKATHAKA ANUDATTAqDOT?jTWO DOTS?nHREE DOTS?qRIGVEDIC KASHMIRI INDEPENDENT SVARITA",
    "blATHARVAVEDIC INDEPENDENT SVARITAblSIGN VISARGA SVARITAhUDATTAoREVERSED VISARGA UDATTAxVISARGA ANUDATTA",
    "qREVERSED VISARGA ANUDATTAzVISARGA UDATTA#TAILqANUDATTA#TAILbaANUSVARA ANTARGOMUKHAmBAHIRGOMUKHAmVAMAGOMUKHA",
    "a#TAILbeTIRYAKgHEXIFORM LONG ANUSVARAwLONG ANUSVARAnRTHANG LONG ANUSVARAuANUSVARA UBHAYATO MUKHAwRDHAVISARGA",
    "mROTATED ARDHAVISARGAzTONE CANDRA+rSIGN JIHVAMULIYAlUPADHMANIYAlATIKRAMAnTONE RING+k> RING+",
    "wSIGN > ANUSVARA ANTARGOMUKHA;1d2c:bnMODIFIER!$ AaEcBaARRED BiDbEbREVERSED EkGbHbIbJbKbLbMbNbREVERSED NkOaUcPbR",
    "bTbUbW;1d62:zLATIN SUBSCRIPT %!IbRbUbV;1ddb:beCOMBINING LATIN!% $ G;1dde:bLbM;1de1:bNbR",
    "2090:bmLATIN SUBSCRIPT %!AbEbObXbSCHWAfHbKbLbMbNbPbSbT;2c7c:bJbeMODIFIER!$ V;2d80:zETHIOPIC SYLLABLE LOAdMOA",
    "dROAdSOAcHOAeBOAdTOAdCOAdNOAcYOAeGLOTTAL OAkZOAdDOAcDOAeJOAdTHOAeCHOAePHOAdOAdGGWAbIbEEcE;2da0:eSSAbUbIbAAcEEcE",
    "bO;2da8:dCCAbUbIbAAcEEcEbO;2db0:dZZAbUbIbAAcEEcEbO;2db8:dCCHAbUbIbAAcEEcEbO;2dc0:eQYAbUbIbAAcEEcEbO;2dc8:dKYAbU",
    "bIbAAcEEcEbO;2dd0:dXYAbUbIbAAcEEcEbO;2dd8:dGYAbUbIbAAcEEcEbO;4dc0:vHEXAGRAM FOR THE CREATIVE HEAVEN",
    "pRECEPTIVE EARTHtDIFFICULTY AT THE BEGINNINGbbYOUTHFUL FOLLYoWAITINGhCONFLICTiTHE ARMYiHOLDING TOGETHER",
    "q% TAMINGmTREADINGiPEACEfSTANDSTILLkFELLOWSHIPkGREAT POSSESSIONqMODESTYhENTHUSIASMkFOLLOWING",
    "jWORK ON THE DECAYEDtAPPROACHiCONTEMPLATIONnBITING THROUGHoGRACEfSPLITTING APARTpRETURNgINNOCENCEjGREAT TAMING",
    "mMOUTH CORNERSnGREAT PREPONDERANCEtTHE ABYSMAL WATERnCLINGING FIRErINFLUENCEjDURATIONiRETREAThGREAT POWER",
    "lPROGRESSiDARKENING OF THE LIGHTwTHE FAMILYkOPPOSITIONjBSTRUCTIONlDELIVERANCEjCREASEiINCREASEiBREAKTHROUGH",
    "mCOMING TO MEEToGATHERING TOGETHERsPUSHING UPWARDoOPPRESSIONkTHE WELLiREVOLUTIONkTHE CAULDRONiAROUSING THUNDER",
    "qKEEPING STILL MOUNTAINbaDEVELOPMENTlTHE MARRYING MAIDENtABUNDANCEjTHE WANDERERiGENTLE WINDlJOYOUS LAKE",
    "pDISPERSIONkLIMITATIONkINNER TRUTHl% PREPONDERANCEtAFTER COMPLETIONqBEFORE COMPLETION;a000:beYI SYLLABLE ITbXcI",
    "aPbETbXcEaPdATbXcAaPcUOXcOaPdOTbXcOaPcEXcEbWUcBITbXcIaPbETbXcEaPdATbXcAaPcUOXcOaPdOTbXcOaPcEXcEaPcUTbXcUaPbRXcR",
    "cYTbXcYaPbRXcRdPITbXcIaPbEXcEaPdATbXcAaPcUOXcOaPdOTbXcOaPcUTbXcUaPbRXcRcYTbXcYaPbRXcRdBBITbXcIaPbETbXcEaPdATbX",
    "cAaPcUOXcOaPdOTbXcOaPcEXcEaPcUTbXcUaPbRXcRcYTbXcYaPeNBITbXcIaPbEXcEaPdATbXcAaPcOTbXcOaPcUTbXcUaPbRXcRcYTbXcYaP",
    "bRXcReHMITbXcIaPbEXcEaPdATbXcAaPcUOXcOaPdOTbXcOaPcUTbXcUaPbRXcRcYXcYaPbRXcReMITbXcIaPbEXcEaPdATbXcAaPcUOTbXcOaP",
    "dOTbXcOaPcEXcEbUTbXcUaPbRXcRcYTbXcYaPdFITbXcIaPcATbXcAaPcOXcOaPcUTbXcUaPbRXcRcYTbXcYaPdVITbXcIaPbETbXcEaPdATbX",
    "cAaPcOTbXcOaPcEXbPcUTbXcUaPbRXcRcYTbXcYaPbRXcRdDITbXcIaPbEXcEaPdATbXcAaPcUOXcOcOTbXcOaPcEXcEaPcUTbXcUaPbRXcR",
    "dTITbXcIaPbEXcEaPdATbXcAaPcUOTbXcOaPdOTbXcOaPcEXcEaPcUTbXcUaPbRXcRdDDITbXcIaPbEXcEaPdATbXcAaPcUOXcOaPdOTbXcOaP",
    "cEXcEaPcUTbXcUaPbRXcReNDITbXcIaPbEXcEcATbXcAaPcOTbXcOaPcEXcEaPcUTbXcUaPbRXcReHNITbXcIaPbETbXcEaPdATbXcAaPcUOXcO",
    "cOTbXbPcEXcEaPcUTeNITbXcIaPbEXcEaPdAXcAaPcUOXcOaPdOTbXcOaPcEXcEaPcUTbXcUaPbRXcRdHLITbXcIaPbEXcEaPdATbXcAaPcUOX",
    "cOaPdOXcOaPcEXcEaPcUTbXcUaPbRXcRcYTbXcYaPbRXcReLITbXcIaPbETbXcEaPdATbXcAaPcUOTbXcOaPdOTbXcOaPcEXcEaPcUTbXcUaP",
    "bRXcRcYTbXcYaPbRXcRdGITbXcIaPbETbXcEaPdATbXcAaPcUOTbXcOaPdOTbXcOaPcETbXcEaPcUTbXcUaPbRXcRdKITbXcIaPbEXcEaPdATbX",
    "cAaPcUOXcOaPdOTbXcOaPcETbXcEaPcUTbXcUaPbRXcRdGGITbXcIaEXcEaPdATbXcAaPcUOTbXcOaPdOTbXcOaPcETbXcEaPcUTbXcUaPbRXcR",
    "eMGIEXcEcATbXcAaPcUOXcOaPdOTbXcOaPcEXcEaPcUTbXcUaPbRXcReHXITbXcIaPbETbXcEaPdATbXcAaPcUOTbXcOaPdOTbXcOaPcEXcEaP",
    "eNGIEXcEaPdATbXcAaPcUOTbXcOcOTbXcOaPcEXcEaPeHITbEXcEcATbXcAaPcUOTbXcOaPdOTbXcOaPcEXcEaPdWATbXcAaPcUOXcOaPdOXcO",
    "aPcEXcEaPdZITbXcIaPbEXcEaPdATbXcAaPcUOXcOaPdOTbXcOaPcEXcEaPcUTbXcUaPbRXcRcYTbXcYaPbRXcRdCITbXcIaPbETbXcEaPdATbX",
    "cAaPcUOXcOaPdOTbXcOaPcEXcEaPcUTbXcUaPbRXcRcYTbXcYaPbRXcRdZZITbXcIaPbETbXcEaPdATbXcAaPcOXcOaPcEXcEaPcUXcUaPbRXcR",
    "cYTbXcYaPbRXcReNZITbXcIaPbEXcEaPdATbXcAaPcUOXcOcOXbPcEXcEbUXcUaPbRXcRcYTbXcYaPbRXcReSITbXcIaPbEXcEaPdATbXcAaP",
    "cUOXcOaPdOTbXcOaPcEXcEaPcUTbXcUaPbRXcRcYTbXcYaPbRXcRcSITbXcIaPbEXcEaPdATbXcAaPcOTbXcOaPcEXcEaPcUTbXcUaPcYTbXcY",
    "aPbRXcReZHATbXcAaPcUOXcOaPdOTbXcOaPcETbXcEaPcUTbXcUaPbRXcRcYTbXcYaPbRXcReCHATbXcAaPcUOTbXcOaPdOTbXcOaPcETbXcEaP",
    "cUXcUaPbRXcRcYTbXcYaPbRXcReRRAXcAbUOXcOcOTbXcOaPcETbXcEaPcUTbXcUaPbRXcRcYTbXcYaPbRXcReNRATbXcAaPcOXcOaPcETbXcE",
    "aPcUTbXcUaPbRXcRcYTbXcYaPbRXcReSHATbXcAaPcUOXcOaPdOTbXcOaPcETbXcEaPcUTbXcUaPbRXcRcYTbXcYaPbRXcReRATbXcAaPcUOXcO",
    "aPdOTbXcOaPcEXcEaPcUTbXcUaPbRXcRcYTbXcYaPbRXcRdJITbXcIaPbETbXcEaPdUOTbXcOaPdOTbXcOaPcUTbXcUaPbRXcRcYTbXcYaPbRX",
    "cRdQITbXcIaPbETbXcEaPdUOTbXcOaPdOTbXcOaPcUTbXcUaPbRXcRcYTbXcYaPbRXcRdJJITbXcIaPbETbXcEaPdUOXcOaPdOTbXcOaPcUTbX",
    "cUaPbRXcRcYTbXcYaPeNJITbXcIaPbETbXcEaPdUOXcOcOTbXcOaPcUXcUaPbRXcRcYTbXcYaPbRXcRdYITbXcIaPbETbXcEaPdUOXcOaPdOTbX",
    "cOaPcUTbXcUaPeXITbXcIaPbETbXcEaPdUOXcOcOTbXcOaPcYTbXcYaPbRXcRdYITbXcIaPbETbXcEaPdUOTbXcOaPdOTbXcOaPcUTbXcUaPbRX",
    "cRcYTbXcYaPbRXcR;a490:mRADICAL QOTdLIcKITdNYIPeCYPdSSIdGGOPdEPdMIcHXITeLYRdBBUTeMOPdYOcPUTdHXUOeTATdGAcZUPdCYT",
    "dDDUReBURdGGUOeNYOPeTUcOPcJJUTeZOTdPYTdHMOdYITdVURdSHYdVEPdZAcJOcNZUPeJJYdGOTdJJIEeWOcDUcSHUReLIEdCYbUOPdIP",
    "dHXOPeSHATeZURdSHOPeCHEdZZIETfNBIEeKE;a4d0:nLISU!BAcPAbHAdDAcTAbHAdGAcKAbHAdJAcCAbHAdDZAdTSAbHAeMAcNAcLAcSAcZHA",
    "cAcNGAdHAcXAcHHAdFAcWAcSHAdYAcGHAdAaEcEaUcIbObUaEbHcOEcTONE MYA TIgNA POfMYA CYAdBOcNAcJEUtPUNCTUATION COMMA",
    "fFULL STOPbaVAI SYLLABLE EEaNdHEEdWEEaNePEEdBHEEdEEdMBEEeKPEEeMGBEEfGBEEeFEEdVEEdTEEcHEEeDHEEcHEEfLEEdREEdDEE",
    "dNDEEeSEEcHEEeZEEcHEEeCEEdJEEdNJEEeYEEdKEEdNGGEEfGEEdMEEdNEEcYEEeIaNcHIaNdWIaNdPIcBHIcIcMBIdKPIdMGBIeGBIdFIcVI",
    "cTIbHIdDHIbHIeLIcRIcDIcNDIdSIbHIdZIbHIdCIcJIcNJIdYIcKIcNGGIeGIcMIcNIbYIdAaNcNGANeHAaNdWAaNdPAcBHAcAcMBAdKPAaN",
    "eMGBAeGBAdFAcVAcTAbHAdDHAbHAeLAcRAcDAcNDAdSAbHAdZAbHAdCAcJAcNJAdYAcKAaNdNGGAeGAcMAcNAbYAdOOaNdHOOdWOOaNePOO",
    "dBHOOdOOdMBOOeKPOOeMGBOOfGBOOeFOOdVOOdTOOcHOOeDHOOcHOOfLOOdROOdDOOdNDOOeSOOcHOOeZOOcHOOeCOOdJOOdNJOOeYOOdKOO",
    "dNGGOOfGOOdMOOdNOOcYOOeUaNcHUaNdWUaNdPUcBHUcUcMBUdKPUdMGBUeGBUdFUcVUcTUbHUdDHUbHUeLUcRUcDUcNDUdSUbHUdZUbHUdCU",
    "cJUcNJUdYUcKUcNGGUeGUcMUcNUbYUdOaNcNGONeHOaNdWOaNdPOcBHOcOcMBOdKPOdMGBOeGBOaNeFOcVOcTObHOdDHObHOeLOcROcDOcNDO",
    "dSObHOdZObHOdCOcJOcNJOdYOcKOcNGGOeGOcMOcNObYOdEaNcNGENeHEaNdWEaNdPEcBHEcEcMBEdKPEaNeMGBEeGBEaNeFEcVEcTEbHEdDHE",
    "bHEeLEcREcDEcNDEdSEbHEdZEbHEdCEcJEcNJEdYEcKEcNGGEaNfGEaNdMEcNEbYEcGcLENGTHENERtCOMMAfFULL STOPjQUESTION|",
    "nSYLLABLE NDOLE FAcKAcSOOqMBOL FEENGfKEENGfTINGeNIIdBANGeFAAdTAAdDANGdOONGfKUNGeTONGeDO-OeJONGlDIGIT ZEROeONE",
    "dTWOcHREEfFOURdIVEeSIXcEVENfEIGHTfNINEkSYLLABLE NDOLE MAcDO;a6a0:vBAMUM!AbKAcUbKUcEEcREEdTAEdObNYIdIbLAcPAcRII",
    "bEEeLEEEEfMEEEEfTAAdNDAAdJAEMfMbSUUdMUcSHIIdIbHEUXeEUXeKYEEdETdNUAEdUbJUAEfYOQdSHUdYUQcAcNSHAeKEUXePEUXeNJEE",
    "dTEEePUEdWUEdPEEdFEEdRUcLUcMIcNIcREUXdAEdKENdNGKWAENfGAcAdSHOdPUAEeFUbOMdWAcNAcLIcPIcLOQdKOcMBENeRENdMENcAcTI",
    "cKIcMObBAAeTETdKPAdTENdNTUUeSAMBAfFAAMAEgKOVUUdGHOMnCOMBINING| KOQNDONhTUKWENTISyNJAEMLIhFULL STOPjCOLONdMMA",
    "fSEMICOLONjQUESTION|;a75a:tLATIN $!R ROTUNDAy%!R ROTUNDA;a7f2:bcMODIFIER!$ CbFbQ;a7f8:bH#STROKE",
    "a800:blSYLOTI NAGRI!AbIiSIGN DVISVARAnLETTER UbEbOiSIGN HASANTAmLETTER KObHOdGObHOkSIGN ANUSVARAnLETTER CObHO",
    "dJObHOdTTObHOeDDObHOeTObHOdDObHOdNOcPObHOdBObHOdMOcROcLOcRROdSOcHOjVOWEL. AbIbUbEbOOnPOETRY|-1b2b3b4",
    "nSIGN ALTERNATE HASANTA;a830:bjNORTH INDIC FRACTION ONE QUARTERhHALFiTHREE QUARTERSoONE SIXTEENTHjEIGHTH",
    "kTHREE SIXTEENTHSzQUARTER|mPLACEHOLDER|qRUPEE|kQUANTITY|;a840:zPHAGS-PA!KAbHAdGAcNGAdCAbHAdJAcNYAdTAbHAdDAcNA",
    "cPAbHAdBAcMAcTSAbHAeDZAdWAcZHAcAc% AhYAcRAcLAcSHAcAcHAcAbIbUbEbObQAcXAcFAcGGAdEEjSUBJOINED!WAcYAtLETTER TTAbHA",
    "eDDAdNNAdALTERNATE YAmVOICELESS SHAiD HAjASPIRATED FAtSUBJOINED!RArPERFIXED!RAuLETTER CANDRABINDUsSINGLE HEAD|",
    "q> HEAD|qMARK SHADe> SHAD;a880:zSAURASHTRA. ANUSVARAiVISARGAmLETTER AaAcIaIcUaUcVOCALIC RaRcLaLkEaEcAIcOaOcAU",
    "cKAbHAdGAbHAdNGAdCAbHAdJAbHAdNYAdTTAbHAeDDAbHAeNNAdTAbHAdDAbHAdNAcPAbHAdBAbHAdMAcYAcRAcLAcVAcSHAcSAcAcHAcLLA",
    "kCONSONANT. HAARUuVOWEL. AAcIaIcUaUcVOCALIC RaRcLaLkEaEcAIcOaOcAUnSIGN VIRAMAgCANDRABINDU;a8ce:qDANDA",
    "eOUBLE DANDAlIGIT ZEROeONEdTWOcHREEfFOURdIVEeSIXcEVENfEIGHTfNINE;a8e0:vCOMBINING DEVANAGARI DIGIT ZEROeONEdTWO",
    "cHREEfFOURdIVEeSIXcEVENfEIGHTfNINEkLETTER AbUbKAcNAcPAcRAcVIjSIGN AVAGRAHA;a900:biKAYAH LI DIGIT ZEROeONEdTWO",
    "cHREEfFOURdIVEeSIXcEVENfEIGHTfNINEkLETTER KAbHAdGAcNGAdSAbHAdZAcNYAdTAcHTAdNAcPAbHAdMAcDAcBAcRAcYAcLAcWAcTHAdHA",
    "cVAcCAcAbOEcIbOOjVOWEL UEcEbUbEEcOhTONE PLOPHUgCALYAa PLOPHUrSIGN CWIdSHYAsREJANG!KAcGAcNGAdTAcDAcNAcPAcBAcMA",
    "cCAcJAcNYAdSAcRAcLAcYAcWAcHAcMBAdNGGAdDAcYJAeAiVOWEL. IbUbEbAIcObAUcEUbAnCONSONANT. NGcNbRbHqVIRAMA",
    "a95f:gSECTION|tHANGUL CHOSEONG TIKEUT-MIEUMfPIEUPfSIOSeCIEUCmRIEUL-KIYEOKgSSANGKIYEOKlTIKEUTgSSANGTIKEUTlMIEUM",
    "fPIEUPfSSANGPIEUPkKAPYEOUNPIEUPnSIOSeCIEUCfKHIEUKHnMIEUM-KIYEOKgTIKEUTgSIOSkPIEUP-SIOS-THIEUTHmKHIEUKHhHIEUH",
    "lSSANGSIOS-PIEUPpIEUNG-RIEULfHIEUHlSSANGCIEUC-HIEUHlTHIEUTHmPHIEUPH-HIEUHnHIEUH-SIOSkSSANGYEORINHIEUH",
    "a980:bgJAVANESE. PANYANGGAjCECAKfLAYARfWIGNYANmLETTER AbI KAWIgIaIcUbPA CEREKiNGA LELETa RASWADIrEbAIcObKA",
    "a SASAKfMURDAiGAa MURDAiNGAdCAa MURDAiJAcNYA MURDAjJA MAHAPRANAmNYAdTTAa MAHAPRANAnDDAa MAHAPRANAnNA MURDAiTA",
    "a MURDAiDAa MAHAPRANAmNAcPAa MURDAiBAa MURDAiMAcYAcRAa AGUNGiLAcWAcSA MURDAeAHAPRANAlAcHAjSIGN CECAK TELU",
    "pVOWEL. TARUNGfOLONGgWULUa MELIKkSUKUa MENDUTlTALINGgDIRGA MUREkPEPETqCONSONANT. KERETfPENGKALhCAKRAuPANGKON",
    "h= RERENGGANo) RERENGGANpPADA ANDAPfMADYAfLUHURfWINDUfPANGKAThLINGSAfUNGSIgADEGa ADEGjPISELEH",
    "mTURNED PADA PISELEH;a9cf:tPANGRANGKEPlDIGIT ZEROeONEdTWOcHREEfFOURdIVEeSIXcEVENfEIGHTfNINE",
    "a9de:kPADA TIRTA TUMETESnISEN-ISENxMYANMAR!SHAN GHAdCHAdJHAdNNAdBHApSIGN SHAN SAWnMODIFIER!SHAN REDUPLICATION",
    "biLETTER TAI LAING NYAdFAcGAbHAdJAbHAdDDAbHAeNNAuTAI LAING DIGIT ZEROeONEdTWOcHREEfFOURdIVEeSIXcEVENfEIGHTfNINE",
    "uLETTER TAI LAING LLAdDAbHAdBAbHA;aa00:bcCHAM!AbIbUbEbAIcObKAbHAdGAbHAdNGUEcAdCHAbHAeJAbHAdNHUEcAbJAeTAbHAdDA",
    "bHAdNUEcAcDDAdPAbPAcHAdBAbHAdMUEcAcBBAdYAcRAcLAcVAcSSAcAcHAjVOWEL. AAcIaIcEIcUbOEcObAIbUcUEnCONSONANT. YAcRAcLA",
    "cWA;aa40:rLETTER ^ KbGbNGpCONSONANT. ^ NGxLETTER ^ CHcTbNbPbYbRbLbSSpCONSONANT. ^ MbH;aa50:wDIGIT ZEROeONEdTWO",
    "cHREEfFOURdIVEeSIXcEVENfEIGHTfNINE;aa5c:kPUNCTUATION SPIRALgDANDAeOUBLE DANDAmTRIPLE DANDAbdMYANMAR!KHAMTI GA",
    "cCAbHAdJAbHAdNYAdTTAbHAeDDAbHAdHAdNAcSAcHAbHAdFAqMODIFIER!KHAMTI REDUPLICATIONbkLETTER KHAMTI XAcZAcRA",
    "pOGOGRAM KHAMTI OAYdQNcHMsSYMBOL AITON EXCLAMATIONlONEdTWOqLETTER AITON RApSIGN PAO KAREN TONEoTAI LAING TONE-2",
    "b5vLETTER SHWE PALAUNG CHAdSHAbfTAI VIET!LOW KOgHIGH KOhLOW KHOhHIGH KHOiLOW KHHOiHIGH KHHOjLOW GOgHIGH GO",
    "hLOW NGOhHIGH NGOiLOW COgHIGH COhLOW CHOhHIGH CHOiLOW SOgHIGH SOhLOW NYOhHIGH NYOiLOW DOgHIGH DOhLOW TOgHIGH TO",
    "hLOW THOhHIGH THOiLOW NOgHIGH NOhLOW BOgHIGH BOhLOW POgHIGH POhLOW PHOhHIGH PHOiLOW FOgHIGH FOhLOW MOgHIGH MO",
    "hLOW YOgHIGH YOhLOW ROgHIGH ROhLOW LOgHIGH LOhLOW VOgHIGH VOhLOW HOgHIGH HOhLOW OfHIGH OnMAI KANGiVOWEL AAcIbUE",
    "cUbEbOhMAI KHITiVOWEL IAcUEAcAcAUEcYbNbMiTONE MAI EKcNUENGfTHOdSONG;aadb:nSYMBOL KONdNUENGfSAMdHO HOIgKOI KOI",
    "xMEETEI MAYEK!EbObCHAdNYAdTTAbHAeDDAbHAeNNAdSHAcSAkVOWEL. IIcUUcAAIcUbAUoCHEIKHANiAHANG KHUDAMlNJI",
    "eSYLLABLE REPETITION|yWORD REPETITION|uVOWEL. VISARGArIRAMA;ab01:tETHIOPIC SYLLABLE TTHUbIbAAcEEcEbO;ab09:eDDHU",
    "bIbAAcEEcEbO;ab11:dZUbIbAAcEEcEbO;ab20:dCCHHAbUbIbAAcEEcEbO;ab28:fBBAbUbIbAAcEEcEbO",
    "ab31:vLATIN %!A REVERSED-SCHWA;ab47:qR WITHOUT HANDLE;ab5b:bjMODIFIER BREVE#INVERTED BREVE;ab70:biCHEROKEE %!A",
    "bEbIbObUbVbGAcKAcGEbIbObUbVcHAbEbIbObUbVcLAbEbIbObUbVcMAbEbIbObUcNAcHNAdNAHcEbIbObUbVcQUAbEbIbObUbVdSAcSaEbIbO",
    "bUbVcDAcTAcDEcTEcDIcTIcDObUbVbLAdTLAbEbIbObUbVcSAbEbIbObUbVdWAbEbIbObUbVcYAyMEETEI MAYEK!KOKdSAMdLAIdMITdPAcNA",
    "cCHILeTILdKHOUeNGOUeTHOUeWAIdYANGeHUKdUNcIbPHAMeATIYAfGOKdJHAMeRAIdBAcJILdDILdGHOUeDHOUeBHAMeKOK LONSUM",
    "kLAI LONSUMkMIT LONSUMkPA LONSUMjNA LONSUMjTIL LONSUMkNGOU LONSUMlI LONSUMpVOWEL. ONAPeINAPeANAPeYENAPfSOUNAP",
    "gUNAPeCHEINAPhNUNGpCHEIKHEIiLUM IYEKiAPUN IYEK;abf0:jDIGIT ZEROeONEdTWOcHREEfFOURdIVEeSIXcEVENfEIGHTfNINE",
    "d7b0:xHANGUL JUNGSEONG O-YEOdO-IfYO-AaEcEOfU-YEOdI-IfYU-AEcOeEU-AbEOcEbOeI-YA-OcEcEOcEcO-IdYObUcIdARAEA-AbE",
    "d7cb:qONGSEONG NIEUN-RIEULfCHIEUCHnSSANGTIKEUTa-PIEUPrTIKEUT-PIEUPfSIOSa-KIYEOKlCIEUCeHIEUCHhTHIEUTH",
    "oRIEUL-SSANGKIYEOKlKIYEOK-HIEUHsSSANGRIEUL-KHIEUKHsRIEUL-MIEUM-HIEUHlPIEUP-TIKEUTgPHIEUPHnYESIEUNG",
    "gORINHIEUH-HIEUHxKAPYEOUNRIEULnMIEUM-NIEUNfSSANGNIEUNqSSANGMIEUMkMIEUM-PIEUP-SIOSkCIEUClPIEUP-TIKEUT",
    "gRIEUL-PHIEUPHnMIEUMlSSANGPIEUPkPIEUP-SIOS-TIKEUTlCIEUCeHIEUCHnSIOS-MIEUMfKAPYEOUNPIEUPrSANGSIOS-KIYEOKgTIKEUT",
    "pIOS-PANSIOShCIEUCeHIEUCHhTHIEUTHhHIEUHkPANSIOS-PIEUPfKAPYEOUNPIEUPvYESIEUNG-MIEUMfHIEUHoCIEUC-PIEUPfSSANGPIEUP",
    "qSSANGCIEUCkPHIEUPH-SIOSeTHIEUTH;fbb2:bgARABIC~ DOT+fBELOWjTWO DOTS+fBELOWnHREE DOTS+fBELOWfPOINTING DOWN,+",
    "fBELOWbjFOUR DOTS+fBELOWp> _ BAR?zTWO DOTS _LY+fBELOWzRINGe% TAH+fBELOWpWASLA+;fbea:sLIGATURE YEH#HAMZA+#ALEF<(",
    "n^(oE<(n^(nWAW<(n^(oU<(n^(mOE<(n^(nYU<(n^(nE<(n^(kINITIAL(boUIGHUR KIRGHIZ YEH#HAMZA+#ALEF MAKSURA<(n^(",
    "kINITIAL(;fc00:coYEH#HAMZA+#JEEM<(sHAH<(rMEEM<(sALEF MAKSURA<(baYEH<(brBEH#JEEM<(sHAH<(rKHAH<(sMEEM<(",
    "sALEF MAKSURA<(baYEH<(baTEH#JEEM<(sHAH<(rKHAH<(sMEEM<(sALEF MAKSURA<(baYEH<(zHEH#JEEM<(sMEEM<(sALEF MAKSURA<(",
    "baYEH<(bbJEEM#HAH<(rMEEM<(bcHAH#JEEM<(sMEEM<(bbKHAH#JEEM<(sHAH<(rMEEM<(bcSEEN#JEEM<(sHAH<(rKHAH<(sMEEM<(",
    "bbAD#HAH<(rMEEM<(bbDAD#JEEM<(sHAH<(rKHAH<(sMEEM<(bbTAH#HAH<(rMEEM<(bbZAH#MEEM<(bbAIN#JEEM<(sMEEM<(",
    "bbGHAIN#JEEM<(sMEEM<(bdFEH#JEEM<(sHAH<(rKHAH<(sMEEM<(sALEF MAKSURA<(baYEH<(baQAF#HAH<(rMEEM<(sALEF MAKSURA<(",
    "baYEH<(baKAF#ALEF<(sJEEM<(sHAH<(rKHAH<(sLAM<(rMEEM<(sALEF MAKSURA<(baYEH<(baLAM#JEEM<(sHAH<(rKHAH<(sMEEM<(",
    "sALEF MAKSURA<(baYEH<(baMEEM#JEEM<(sHAH<(rKHAH<(sMEEM<(sALEF MAKSURA<(baYEH<(bbNOON#JEEM<(sHAH<(rKHAH<(sMEEM<(",
    "sALEF MAKSURA<(baYEH<(bbHEH#JEEM<(sMEEM<(sALEF MAKSURA<(baYEH<(baYEH#JEEM<(sHAH<(rKHAH<(sMEEM<(sALEF MAKSURA<(",
    "baYEH<(baTHAL#SUPERSCRIPT ALEF<(boREH#SUPERSCRIPT ALEF<(bnALEF MAKSURA#SUPERSCRIPT ALEF<(bwSHADDA#DAMMATAN<(",
    "wKASRATAN<(wFATHA<(tDAMMA<(tKASRA<(tSUPERSCRIPT ALEF<(bqYEH#HAMZA+#REH ^(oZAIN ^(pMEEM ^(pNOON ^(",
    "pALEF MAKSURA ^(xYEH ^(boBEH#REH ^(oZAIN ^(pMEEM ^(pNOON ^(pALEF MAKSURA ^(xYEH ^(xTEH#REH ^(oZAIN ^(pMEEM ^(",
    "pNOON ^(pALEF MAKSURA ^(xYEH ^(wHEH#REH ^(oZAIN ^(pMEEM ^(pNOON ^(pALEF MAKSURA ^(xYEH ^(yFEH#ALEF MAKSURA ^(",
    "xYEH ^(xQAF#ALEF MAKSURA ^(xYEH ^(xKAF#ALEF ^(pLAM ^(oMEEM ^(pALEF MAKSURA ^(xYEH ^(xLAM#MEEM ^(",
    "pALEF MAKSURA ^(xYEH ^(xMEEM#ALEF ^(pMEEM ^(zNOON#REH ^(oZAIN ^(pMEEM ^(pNOON ^(pALEF MAKSURA ^(xYEH ^(",
    "yALEF MAKSURA#SUPERSCRIPT ALEF ^(btYEH#REH ^(oZAIN ^(pMEEM ^(pNOON ^(pALEF MAKSURA ^(xYEH ^(",
    "oHAMZA+#JEEM INITIAL(rHAH INITIAL(qKHAH INITIAL(rMEEM INITIAL(rHEH INITIAL(bqBEH#JEEM INITIAL(rHAH INITIAL(",
    "qKHAH INITIAL(rMEEM INITIAL(rHEH INITIAL(zTEH#JEEM INITIAL(rHAH INITIAL(qKHAH INITIAL(rMEEM INITIAL(",
    "rHEH INITIAL(yHEH#MEEM INITIAL(bbJEEM#HAH INITIAL(qMEEM INITIAL(bbHAH#JEEM INITIAL(rMEEM INITIAL(",
    "baKHAH#JEEM INITIAL(rMEEM INITIAL(bbSEEN#JEEM INITIAL(rHAH INITIAL(qKHAH INITIAL(rMEEM INITIAL(",
    "baAD#HAH INITIAL(qKHAH INITIAL(rMEEM INITIAL(baDAD#JEEM INITIAL(rHAH INITIAL(qKHAH INITIAL(rMEEM INITIAL(",
    "baTAH#HAH INITIAL(zZAH#MEEM INITIAL(baAIN#JEEM INITIAL(rMEEM INITIAL(baGHAIN#JEEM INITIAL(rMEEM INITIAL(",
    "bcFEH#JEEM INITIAL(rHAH INITIAL(qKHAH INITIAL(rMEEM INITIAL(baQAF#HAH INITIAL(qMEEM INITIAL(baKAF#JEEM INITIAL(",
    "rHAH INITIAL(qKHAH INITIAL(rLAM INITIAL(qMEEM INITIAL(baLAM#JEEM INITIAL(rHAH INITIAL(qKHAH INITIAL(",
    "rMEEM INITIAL(rHEH INITIAL(zMEEM#JEEM INITIAL(rHAH INITIAL(qKHAH INITIAL(rMEEM INITIAL(bbNOON#JEEM INITIAL(",
    "rHAH INITIAL(qKHAH INITIAL(rMEEM INITIAL(rHEH INITIAL(baHEH#JEEM INITIAL(rMEEM INITIAL(",
    "rSUPERSCRIPT ALEF INITIAL(bmYEH#JEEM INITIAL(rHAH INITIAL(qKHAH INITIAL(rMEEM INITIAL(rHEH INITIAL(",
    "pAMZA+#MEEM MEDIAL(qHEH MEDIAL(bpBEH#MEEM MEDIAL(qHEH MEDIAL(yTEH#MEEM MEDIAL(qHEH MEDIAL(xHEH#MEEM MEDIAL(",
    "qHEH MEDIAL(zSEEN#MEEM MEDIAL(qHEH MEDIAL(yHEEN#MEEM MEDIAL(qHEH MEDIAL(baKAF#LAM MEDIAL(pMEEM MEDIAL(",
    "zLAM#MEEM MEDIAL(zNOON#MEEM MEDIAL(qHEH MEDIAL(zYEH#MEEM MEDIAL(qHEH MEDIAL(ySHADDA#FATHA MEDIAL(rDAMMA MEDIAL(",
    "rKASRA MEDIAL(bdTAH#ALEF MAKSURA<(baYEH<(baAIN#ALEF MAKSURA<(baYEH<(baGHAIN#ALEF MAKSURA<(baYEH<(",
    "bcSEEN#ALEF MAKSURA<(baYEH<(baHEEN#ALEF MAKSURA<(baYEH<(bcHAH#ALEF MAKSURA<(baYEH<(baJEEM#ALEF MAKSURA<(baYEH<(",
    "bbKHAH#ALEF MAKSURA<(baYEH<(bbSAD#ALEF MAKSURA<(baYEH<(baDAD#ALEF MAKSURA<(baYEH<(baSHEEN#JEEM<(sHAH<(rKHAH<(",
    "sMEEM<(sREH<(bbEEN#REH<(baAD#REH<(baDAD#REH<(baTAH#ALEF MAKSURA ^(xYEH ^(xAIN#ALEF MAKSURA ^(xYEH ^(",
    "xGHAIN#ALEF MAKSURA ^(xYEH ^(zSEEN#ALEF MAKSURA ^(xYEH ^(xHEEN#ALEF MAKSURA ^(xYEH ^(zHAH#ALEF MAKSURA ^(",
    "xYEH ^(xJEEM#ALEF MAKSURA ^(xYEH ^(yKHAH#ALEF MAKSURA ^(xYEH ^(ySAD#ALEF MAKSURA ^(xYEH ^(xDAD#ALEF MAKSURA ^(",
    "xYEH ^(xSHEEN#JEEM ^(pHAH ^(oKHAH ^(pMEEM ^(pREH ^(yEEN#REH ^(xAD#REH ^(xDAD#REH ^(xSHEEN#JEEM INITIAL(",
    "rHAH INITIAL(qKHAH INITIAL(rMEEM INITIAL(bbEEN#HEH INITIAL(zHEEN#HEH INITIAL(bbTAH#MEEM INITIAL(",
    "baSEEN#JEEM MEDIAL(qHAH MEDIAL(pKHAH MEDIAL(zHEEN#JEEM MEDIAL(qHAH MEDIAL(pKHAH MEDIAL(bbTAH#MEEM MEDIAL(",
    "zZAH#MEEM MEDIAL(zALEF#FATHATAN ^(kISOLATED(;fd40:bgRAHIMAHU ALLAAHnDI ALLAAHU ANHaAAcUMaAAdNNA",
    "uSALLALLAAHU ALAYHI WA-AALIHbbALAYHI AS-SALAAMkM AS-SALAAMkAA AS-SALAAMn AS-SALAATU WAS-SALAAMbcQUDDISA SIRRAH",
    "oSALLALLAHU ALAYHI WAAALIHEE WA-SALLAMblALAYHAA AS-SALAAMrTABAARAKA WA-TAAALAAuRAHIMAHUM ALLAAH",
    "qTEH#JEEM#MEEM INITIAL(bbHAH#JEEM ^(kINITIAL(rMEEM INITIAL(baKHAH#MEEM INITIAL(bbMEEM#JEEM INITIAL(",
    "rHAH INITIAL(qKHAH INITIAL(bkJEEM#MEEM#HAH ^(kINITIAL(bkHAH#MEEM#YEH ^(oALEF MAKSURA ^(bqSEEN#HAH#JEEM INITIAL(",
    "baJEEM#HAH INITIAL(qALEF MAKSURA ^(bhMEEM#HAH ^(kINITIAL(qJEEM INITIAL(rMEEM ^(kINITIAL(bkAD#HAH#HAH ^(",
    "kINITIAL(zMEEM#MEEM ^(bhHEEN#HAH#MEEM ^(kINITIAL(baJEEM#YEH ^(yMEEM#KHAH ^(kINITIAL(rMEEM ^(kINITIAL(",
    "bmDAD#HAH#ALEF MAKSURA ^(bgKHAH#MEEM ^(kINITIAL(bkTAH#MEEM#HAH ^(kINITIAL(qMEEM INITIAL(rYEH ^(",
    "bhAIN#JEEM#MEEM ^(zMEEM#MEEM ^(kINITIAL(rALEF MAKSURA ^(bqGHAIN#MEEM#MEEM ^(pYEH ^(oALEF MAKSURA ^(",
    "bsFEH#KHAH#MEEM ^(kINITIAL(bkQAF#MEEM#HAH ^(oMEEM ^(biLAM#HAH#MEEM ^(pYEH ^(oALEF MAKSURA ^(",
    "bgJEEM#JEEM INITIAL(m^(zKHAH#MEEM ^(kINITIAL(bbMEEM#HAH ^(kINITIAL(bjMEEM#HAH#JEEM INITIAL(rMEEM INITIAL(",
    "rYEH ^(xJEEM#HAH INITIAL(qMEEM INITIAL(bbKHAH#JEEM INITIAL(rMEEM INITIAL(;fd92:bbJEEM#KHAH INITIAL(",
    "blHEH#MEEM#JEEM INITIAL(rMEEM INITIAL(bkNOON#HAH#MEEM INITIAL(rALEF MAKSURA ^(bgJEEM#MEEM ^(kINITIAL(",
    "rALEF MAKSURA ^(bhMEEM#YEH ^(oALEF MAKSURA ^(brYEH#MEEM#MEEM ^(kINITIAL(bkBEH#KHAH#YEH ^(bhTEH#JEEM#YEH ^(",
    "oALEF MAKSURA ^(bhKHAH#YEH ^(oALEF MAKSURA ^(bhMEEM#YEH ^(oALEF MAKSURA ^(bqJEEM#MEEM#YEH ^(",
    "yHAH#ALEF MAKSURA ^(bgMEEM#ALEF MAKSURA ^(brSEEN#KHAH#ALEF MAKSURA ^(bqAD#HAH#YEH ^(bfHEEN#HAH#YEH ^(",
    "biDAD#HAH#YEH ^(bgLAM#JEEM#YEH ^(yMEEM#YEH ^(bhYEH#HAH#YEH ^(xJEEM#YEH ^(yMEEM#YEH ^(bhMEEM#MEEM#YEH ^(",
    "biQAF#MEEM#YEH ^(bhNOON#HAH#YEH ^(bhQAF#MEEM#HAH INITIAL(bjLAM#HAH#MEEM INITIAL(bjAIN#MEEM#YEH ^(",
    "bhKAF#MEEM#YEH ^(bhNOON#JEEM#HAH INITIAL(bkMEEM#KHAH#YEH ^(biLAM#JEEM#MEEM INITIAL(bkKAF#MEEM#MEEM ^(",
    "biLAM#JEEM#MEEM ^(biNOON#JEEM#HAH ^(biJEEM#HAH#YEH ^(bhHAH#JEEM#YEH ^(bhMEEM#JEEM#YEH ^(biFEH#MEEM#YEH ^(",
    "bhBEH#HAH#YEH ^(bgKAF#MEEM#MEEM INITIAL(bkAIN#JEEM#MEEM INITIAL(bkSAD#MEEM#MEEM INITIAL(bjEEN#KHAH#YEH ^(",
    "biNOON#JEEM#YEH ^(;fdcf:biSALAAMUHU ALAYNAA;fdf0:oLA USED AS KORANIC STOP.<(btQALA USED AS KORANIC STOP.<(",
    "bsALLAH<(sKBAR<(tMOHAMMAD<(wSALAM<(tRASOUL<(uALAYHE<(uWASALLAM<(wSALLA<(oLLAHOU ALAYHE WASALLAM",
    "bbJALLAJALALOUHOU;fdfd:pBISMILLAH AR-RAHMAN AR-RAHEEMbdSUBHAANAHU WA TAAALAAvAZZA WA JALLbcVARIATION SELECTOR-1",
    "b2b3b4b5b6b7b8b9b10b1b2b3b4b5b6vPRESENTATION( FOR _ COMMAfIDEOGRAPHIC COMMAfFULL STOPvCOLONfSEMICOLON",
    "jEXCLAMATION|qQUESTION|n= WHITE LENTICULAR BRACKETbd) WHITE LENTICULAR BRAKCETbeHORIZONTAL ELLIPSIS",
    "fe30:tTWO DOT LEADERoEM DASHgN DASHhLOW LINEiWAVY LOW LINEn= PARENTHESISq) PARENTHESISr= CURLY BRACKET",
    "s) CURLY BRACKETt= TORTOISE SHELL BRACKETbb) TORTOISE SHELL BRACKETbc= BLACK LENTICULAR BRACKET",
    "bd) BLACK LENTICULAR BRACKETbe= > ANGLE BRACKETz) > ANGLE BRACKETba= ANGLE BRACKETs) ANGLE BRACKET",
    "t= CORNER BRACKETt) CORNER BRACKETu= WHITE CORNER BRACKETz) WHITE CORNER BRACKET;fe47:ba= SQUARE BRACKET",
    "t) SQUARE BRACKET;fead:bzARABIC!REH<(n^(;fef5:uIGATURE LAM#ALEF#MADDA+<(n^(wHAMZA+<(n^(qBELOW<(n^(bbISOLATED(",
    "n^(;ff01:boFULLWIDTH EXCLAMATION|qQUOTATION|oNUMBER.lDOLLAR.lPERCENT.mAMPERSANDiPOSTROPHEk= PARENTHESIS",
    "q) PARENTHESISrASTERISKiPLUS.jCOMMAfHYPHEN-MINUSmFULL STOPjSOLIDUShDIGIT ZEROeONEdTWOcHREEfFOURdIVEeSIXcEVEN",
    "fEIGHTfNINEkCOLONfSEMICOLONjLESS-THAN.oEQUALS.lGREATER-THAN.rQUESTION|nCOMMERCIAL ATnLATIN $!AbBbCbDbEbFbGbHbI",
    "bJbKbLbMbNbObPbQbRbSbTbUbVbWbXbYbZvEFT SQUARE BRACKETtREVERSE SOLIDUSoIGHT SQUARE BRACKETuCIRCUMFLEX ACCENT",
    "rLOW LINEiGRAVE ACCENTmLATIN %!AbBbCbDbEbFbGbHbIbJbKbLbMbNbObPbQbRbSbTbUbVbWbXbYbZtEFT CURLY BRACKETs_ LINE",
    "n) CURLY BRACKETtTILDEf= WHITE PARENTHESISw) WHITE PARENTHESISbhHALFWIDTH IDEOGRAPHIC FULL STOP",
    "v= CORNER BRACKETt) CORNER BRACKETuIDEOGRAPHIC COMMArKATAKANA MIDDLE DOTkLETTER WOc% AbIbUbEbObYAbUbOcTU",
    "q-HIRAGANA PROLONGED SOUND|be!AbIbUbEbObKAbIbUbEbOcSAbIbUbEbOcTAbIbUbEbOcNAbIbUbEbOcHAbIbUbEbOcMAbIbUbEbOcYAbU",
    "bOcRAbIbUbEbOcWAcNiVOICED SOUND|rSEMI-VOICED SOUND|bfHANGUL FILLERgLETTER KIYEOKgSSANGKIYEOKlKIYEOK-SIOSlNIEUN",
    "a-CIEUCfHIEUHlTIKEUTgSSANGTIKEUTlRIEULa-KIYEOKgMIEUMfPIEUPfSIOSeTHIEUTHhPHIEUPHhHIEUHlMIEUMfPIEUPfSSANGPIEUP",
    "kPIEUP-SIOSkSIOSdSANGSIOSjIEUNGfCIEUCfSSANGCIEUCkCHIEUCHhKHIEUKHhTHIEUTHhPHIEUPHhHIEUH;ffc2:fAaEcYAaEdEOcE",
    "ffca:bYEOcEcObWAaEdOE;ffd2:cYOcUbWEOcEbIcYU;ffda:cEUcYIcI;ffe0:zFULLWIDTH CENT.jPOUND.kNOT.iMACRONgBROKEN BAR",
    "kYEN.iWON.;ffe8:sHALFWIDTH(S LIGHT _u=,&pUP,&n),&qDOWN,&pBLACK SQUAREmWHITE CIRCLE",
    "11660:wMONGOLIAN BIRGA#ORNAMENTtROTATED BIRGAn> BIRGA#ORNAMENTbaTRIPLE BIRGA#ORNAMENTbaBIRGA#> ORNAMENT",
    "baROTATED BIRGA#ORNAMENTi> ORNAMENTbiINVERTED BIRGAa#> ORNAMENTbjSWIRL BIRGAa#ORNAMENTi> ORNAMENT",
    "bgTURNED SWIRL BIRGA#> ORNAMENT;11abc:bxCANADIAN SYLLABICS SPEbIbObA;11fb0:wLISU!YHA",
    "1e7e0:pETHIOPIC SYLLABLE HHYAbUbIbAAcEEcEbO;1e7e9:cWIbEEcE;e0100:wVARIATION SELECTOR-17b8b9c20b1b2b3b4b5b6b7b8",
    "b9c30b1b2b3b4b5b6b7b8b9c40b1b2b3b4b5b6b7b8b9c50b1b2b3b4b5b6b7b8b9c60b1b2b3b4b5b6b7b8b9c70b1b2b3b4b5b6b7b8b9c80",
    "b1b2b3b4b5b6b7b8b9c90b1b2b3b4b5b6b7b8b9c100b1b2b3b4b5b6b7b8b9c10b1b2b3b4b5b6b7b8b9c20b1b2b3b4b5b6b7b8b9c30b1b2",
    "b3b4b5b6b7b8b9c40b1b2b3b4b5b6b7b8b9c50b1b2b3b4b5b6b7b8b9c60b1b2b3b4b5b6b7b8b9c70b1b2b3b4b5b6b7b8b9c80b1b2b3b4b5",
    "b6b7b8b9c90b1b2b3b4b5b6b7b8b9d200b1b2b3b4b5b6b7b8b9c10b1b2b3b4b5b6b7b8b9c20b1b2b3b4b5b6b7b8b9c30b1b2b3b4b5b6b7",
    "b8b9c40b1b2b3b4b5b6b7b8b9c50b1b2b3b4b5b6"]

end Vetted.Text.CharacterName
