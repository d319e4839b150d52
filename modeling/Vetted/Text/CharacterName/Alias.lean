import Vetted.Text.Ranges

namespace Vetted.Text.CharacterName

def aliases : List String :=
  ["0:aNULL;0:cLdSTART OF HEADING;1:pOHcTART OF TEXT;2:lXdEND OF TEXT;3:kTXcND OF TRANSMISSION;4:sOTcNQUIRY;5:fQ",
    "dACKNOWLEDGE;6:jKcLERT;7:fBELcACKSPACE;8:iScCHARACTER TABULATION;9:uHORIZONTAL TABULATION;9:uT;9:cTABdLINE FEED",
    "a:jNEW LINE;a:iEND OF LINE;a:kOL;a:dLF;a:cNLcLINE TABULATION;b:p_ TABULATION;b:sTcFORM FEED;c:iF",
    "cCARRIAGE RETURN;d:oRcSHIFT OUT;e:jLOCKING-SHIFT ONE;e:rSObHIFT IN;f:iLOCKING-SHIFT ZERO;f:sSIcDATA LINK ESCAPE",
    "10:pLEcEVICE CONTROL ONE;11:rC1cEVICE CONTROL TWO;12:rC2cEVICE CONTROL THREE;13:tC3cEVICE CONTROL FOUR;14:sC4",
    "dNEGATIVE ACKNOWLEDGE;15:tAKdSYNCHRONOUS IDLE;16:oNdEND OF TRANSMISSION BLOCK;17:yTBdCANCEL;18:eNdEND OF MEDIUM",
    "19:mOMdSUBSTITUTE;1a:iBdESCAPE;1b:eCdINFORMATION SEPARATOR FOUR;1c:baFILE SEPARATOR;1c:nS",
    "cINFORMATION SEPARATOR THREE;1d:bbGROUP SEPARATOR;1d:oScINFORMATION SEPARATOR TWO;1e:zRECORD SEPARATOR;1e:pS",
    "cINFORMATION SEPARATOR ONE;1f:zUNIT SEPARATOR;1f:nScSP;7f:cDELETE;7f:eLdPADDING CHARACTER;80:pD",
    "dHIGH OCTET PRESET;81:qOPdBREAK PERMITTED HERE;82:tPHdNO BREAK HERE;83:mBHdINDEX;84:dDdNEXT LINE;85:hL",
    "dSTART OF SELECTED AREA;86:vSAdEND OF SELECTED AREA;87:tSAdCHARACTER TABULATION SET",
    "88:yHORIZONTAL TABULATION SET;88:yTSdCHARACTER TABULATION#JUSTIFICATION",
    "89:bnHORIZONTAL TABULATION#JUSTIFICATION;89:bnTJdLINE TABULATION SET;8a:t_ TABULATION SET;8a:wTS",
    "dPARTIAL LINE FORWARD;8b:hDOWN;8b:qLDcARTIAL LINE BACKWARD;8c:iUP;8c:oLUdREVERSE LINE FEED;8d:jINDEX;8d:mI",
    "cSINGLE SHIFT TWO;8e:k-SHIFT-2;8e:nS2cINGLE SHIFT THREE;8f:m-SHIFT-3;8f:nS3dDEVICE CONTROL STRING;90:uCS",
    "dPRIVATE USE ONE;91:e-1;91:mU1cRIVATE USE TWO;92:e-2;92:mU2dSET TRANSMIT STATE;93:rTSdCANCEL CHARACTER;94:pCH",
    "dMESSAGE WAITING;95:oWcSTART OF GUARDED AREA;96:mPROTECTED AREA;96:wPAdEND OF GUARDED AREA;97:mPROTECTED AREA",
    "97:uPAdSTART OF STRING;98:oOScINGLE GRAPHIC CHARACTER INTRODUCER;99:biGCcINGLE CHARACTER INTRODUCER;9a:baCI",
    "dCONTROL SEQUENCE INTRODUCER;9b:baSIdSTRING TERMINATOR;9c:qTcOPERATING SYSTEM COMMAND;9d:xSCdPRIVACY MESSAGE",
    "9e:oMcAPPLICATION PROGRAM COMMAND;9f:zCdNBSP;ad:eSHY;1a2:dLATIN $!GHAs%!GHA;34f:wCGJ;61c:dALM",
    "709:dSYRIAC SUBLINEAR COLON SKEWED =;cde:biKANNADA!LLLA;e9d:tLAO!FO FON;e9f:cAY;ea3:gRO;ea5:cLO",
    "fd0:nTIBETAN| BKA- SHOG GI MGO RGYAN;11ec:bjHANGUL JONGSEONG YESIEUNG-KIYEOKgSSANGKIYEOKuSSANGYESIEUNG",
    "nYESIEUNG-KHIEUKH;180b:bhFVS1b2b3eMVSdFVS4;200b:eZWSPcNJcJdLRMdRLM;202a:dLREdRLEdPDFdLROdRLOdNNBSP;205f:fMMSP",
    "eWJ;2066:cLRIdRLIdFSIdPDI;2118:dWEIERSTRASS ELLIPTIC FUNCTION;2448:bdMICR ON US~mDASH~",
    "2b7a:q=,@-HEADED&#> _ STROKE;2b7c:ch),@-HEADED&#> _ STROKE;a015:ciYI SYLLABLE ITERATION|",
    "aa6e:baMYANMAR!KHAMTI LLA;fe18:zPRESENTATION( FOR _ ) WHITE LENTICULAR BRACKET;feff:cjBYTE ORDER|;feff:oOM",
    "feff:dZWNBSP;122d4:gCUNEIFORM. NU11 TENUeOVER NU11 BUR OVER BUR;16e56:bqMEDEFAIDRIN $!HbNG;16e76:r%!HbNG",
    "1b001:bbHENTAIGANA!E-1;1d0c5:vBYZANTINE MUSICAL~ FTHORA SKLIRON CHROMA VASIS;fe00:caVS1b2b3b4b5b6b7b8b9b10b1b2",
    "b3b4b5b6;e0100:b7b8b9c20b1b2b3b4b5b6b7b8b9c30b1b2b3b4b5b6b7b8b9c40b1b2b3b4b5b6b7b8b9c50b1b2b3b4b5b6b7b8b9c60b1",
    "b2b3b4b5b6b7b8b9c70b1b2b3b4b5b6b7b8b9c80b1b2b3b4b5b6b7b8b9c90b1b2b3b4b5b6b7b8b9c100b1b2b3b4b5b6b7b8b9c10b1b2b3",
    "b4b5b6b7b8b9c20b1b2b3b4b5b6b7b8b9c30b1b2b3b4b5b6b7b8b9c40b1b2b3b4b5b6b7b8b9c50b1b2b3b4b5b6b7b8b9c60b1b2b3b4b5b6",
    "b7b8b9c70b1b2b3b4b5b6b7b8b9c80b1b2b3b4b5b6b7b8b9c90b1b2b3b4b5b6b7b8b9d200b1b2b3b4b5b6b7b8b9c10b1b2b3b4b5b6b7b8",
    "b9c20b1b2b3b4b5b6b7b8b9c30b1b2b3b4b5b6b7b8b9c40b1b2b3b4b5b6b7b8b9c50b1b2b3b4b5b6"]

def codedNames : List (String × Ranges) :=
  [("CJK COMPATIBILITY IDEOGRAPH-", .ofLines ["f900-fa6d fa70-fad9 2f800-2fa1d"]),
    ("KHITAN SMALL SCRIPT CHARACTER-", .ofLines ["18b00-18cd5"]),
    ("NUSHU CHARACTER-", .ofLines ["1b170-1b2fb"])]

end Vetted.Text.CharacterName
