namespace Vetted.Text.CharacterName

def symbols : List String :=
  ["2015:aHORIZONTAL BAR;2025:oTWO DOT LEADERoHORIZONTAL ELLIPSIS;2034:tTRIPLE PRIMEmREVERSED PRIMEf> PRIME",
    "mTRIPLE PRIME;204b:mPILCROW.vBLACK =, BULLETq), BULLET;204f:xREVERSED SEMICOLON;2051:sTWO ASTERISKS ALIGNED _LY",
    "2056:bfHREE DOT PUNCTUATION;205a:uWO DOT PUNCTUATION;205f:tMEDIUM MATHEMATICAL SPACE;2080:zSUBSCRIPT ZEROeONE",
    "dTWOcHREEfFOURdIVEeSIXcEVENfEIGHTfNINEePLUS.jMINUSfEQUALS.l= PARENTHESISq) PARENTHESIS;20aa:bbNEW SHEQEL.",
    "2102:p>-STRUCK $ C;210a:xSCRIPT % Gh$ H;210d:q>-STRUCK $ H;2110:xSCRIPT $ I;2112:bLj% L;2115:o>-STRUCK $ N",
    "2118:xSCRIPT $ Pq>-STRUCK $ PbQxSCRIPT $ R;211d:q>-STRUCK $ R;2124:bZ;2129:xTURNED GREEK %!IOTA",
    "212c:beSCRIPT $ B;212f:j% Eh$ EbFqTURNED $ FqSCRIPT $ Mj% O;213c:o>-STRUCK % PIcGAMMAl$ GAMMAfPI",
    "kN-ARY SUMMATIONbdTURNED SANS-SERIF $ GbLbbREVERSED SANS-SERIF $ LbdTURNED SANS-SERIF $ Ybb>-STRUCK ITALIC $ D",
    "j% DbEbIbJ;214b:bcTURNED AMPERSAND;214e:j% FoSYMBOL FOR SAMARITAN SOURCE;2160:bbROMAN NUMERAL ONEdTWOcHREEfFOUR",
    "dIVEeSIXcEVENfEIGHTfNINEeTENdELEVENgTWELVEgFIFTYfONE HUNDREDlFIVE HUNDREDmONE THOUSANDba% ROMAN NUMERAL ONEdTWO",
    "cHREEfFOURdIVEeSIXcEVENfEIGHTfNINEeTENdELEVENgTWELVEgFIFTYfONE HUNDREDlFIVE HUNDREDmONE THOUSAND",
    "bgROMAN NUMERAL ONE THOUSAND C DqFIVE THOUSANDnTEN THOUSANDmREVERSED ONE HUNDRED;2185:uSIX LATE(nFIFTY EARLY(",
    "kTHOUSANDoONE HUNDRED THOUSAND;218a:biTURNED DIGIT TWOcHREE;2190:s=,&pUP,&n),&qDOWN,&p= )&qUP DOWN&nNORTH WEST&",
    "kEAST&qSOUTH EAST&kWEST&q=,&#STROKEbb),&#STROKEbc=, WAVE&u), WAVE&v=, TWO HEADED&baUP, TWO HEADED&",
    "y), TWO HEADED&bbDOWN, TWO HEADED&ba=,&#TAILz),&#TAILba=,& FROM BARyUP,& FROM BARw),& FROM BARzDOWN,& FROM BAR",
    "yUP DOWN&#BASEx=,&#HOOKz),&#HOOKba=,&#LOOPz),&#LOOPba= ) WAVE&kARROW#STROKEbcDOWN, ZIGZAG&wUP,&#TIP =,j),",
    "bhDOWN,&#TIP =,j),bj),&#CORNER DOWN,bmDOWN,&#CORNER =,blANTICLOCKWISE TOP SEMICIRCLE&",
    "21b8:biNORTH WEST& TO LONG BARbc=,& TO BAR OVER ),& TO BARbzANTICLOCKWISE OPEN CIRCLE&",
    "21bc:bf=, HARPOON#BARB UP,hDOWN,blUP, HARPOON#BARB ),k=,bj), HARPOON#BARB UP,hDOWN,bmDOWN, HARPOON#BARB ),k=,",
    "bl),& OVER =,&blUP,& =, OF DOWN,&bq=,& OVER ),&bbPAIRED&SxUP, PAIRED&Sv), PAIRED&SyDOWN, PAIRED&S",
    "x=, HARPOON OVER ), HARPOONbp), HARPOON OVER =, HARPOONbp=, >&#STROKEbe ) >&#STROKEbj), >&#STROKEbj=, >&wUP, >&",
    "u), >&xDOWN, >&w= ) >&xUP DOWN >&uNORTH WEST >&rEAST >&xSOUTH EAST >&rWEST >&x=, TRIPLE&w), TRIPLE&",
    "x=, SQUIGGLE&y), SQUIGGLE&zUP,&#> STROKEbgDOWN,&#> STROKEbi=, DASHED&wUP, DASHED&u), DASHED&xDOWN, DASHED&",
    "w=,& TO BARw),& TO BARx=, WHITE&vUP, WHITE&t), WHITE&wDOWN, WHITE&vUP, WHITE& FROM BARiON PEDESTAL",
    "a#HORIZONTAL BARo_ BARbj>&a ON PEDESTALbm), WHITE& FROM WALLbgNORTH WEST& TO CORNERbaSOUTH EAST& TO CORNER",
    "baUP DOWN WHITE&;21f5:tDOWN,& =, OF UP,&bqTHREE ),&Sx=,&#_ STROKEbk),&#_ STROKEbl= )&#_ STROKEbh,&#> _ STROKE",
    "br),&#> _ STROKEbs= )&#> _ STROKEbo, OPEN-HEADED&bb), OPEN-HEADED&bc= ) OPEN-HEADED&;2205:bcEMPTY SET",
    "220f:jN-ARY PRODUCThCOPRODUCTjSUMMATION;221a:pSQUARE ROOT;2221:lMEASURED ANGLE;2227:oLOGICAL ANDdOR",
    "222d:kTRIPLE INTEGRAL;2233:pANTICLOCKWISE CONTOUR INTEGRAL;223d:beREVERSED TILDE;224b:oTRIPLE TILDE",
    "225e:mMEASURED BY;2282:lSUBSET OFhPERSET OF;2286:jBSET OF OR EQUAL TOtPERSET OF OR EQUAL TO",
    "228a:vBSET OF#NOT EQUAL TOzPERSET OF#NOT EQUAL TO;228f:bcQUARE IMAGE OFiORIGINAL OFlIMAGE OF OR EQUAL TO",
    "uORIGINAL OF OR EQUAL TOxCAPcUPkCIRCLED PLUSeMINUSfTIMESfDIVISION SLASHnOT OPERATORmRING OPERATOR",
    "nASTERISK OPERATORrEQUALSgDASHmSQUARED PLUSeMINUSfTIMESfDOT OPERATOR;22a5:uUP TACK",
    "22aa:hTRIPLE _ BAR ) TURNSTILE;22c0:bjN-ARY LOGICAL ANDdORkINTERSECTIONmUNION;22cd:lREVERSED TILDE EQUALS",
    "22d8:vVERY MUCH LESS-THANjGREATER-THAN;22e4:wSQUARE IMAGE OF OR NOT EQUAL TOyORIGINAL OF OR NOT EQUAL TO",
    "22f0:biUP ) DIAGONAL ELLIPSIS;22ff:baZ NOTATION BAG MEMBERSHIP;2303:zUP&HEAD;230c:mBOTTOM ) CROPk= CROP",
    "qTOP ) CROPk= CROPnREVERSED NOT.rSQUARE LOZENGE;2319:oTURNED NOT.;231c:oOP = CORNERl) CORNERqBOTTOM = CORNER",
    "l) CORNERtTOP HALF INTEGRALrBOTTOM HALF INTEGRAL;2324:uUP&HEAD BETWEEN TWO HORIZONTAL BARS",
    "2336:boAPL FUNCTIONAL~ I-BEAMgSQUISH QUADlQUAD EQUALfDIVIDEeAMONDhJOTdCIRCLElCIRCLE STILEfJOTkSLASH BAR",
    "jBACKSLASH BARnQUAD SLASHfBACKSLASHjLESS-THANjGREATER-THANr=, VANEo), VANEpQUAD =,&p),&vCIRCLE BACKSLASH",
    "qDOWN TACK UNDERBARrELTA STILElQUAD DOWN CARETjELTAkDOWN TACK JOTnUP, VANEmQUAD UP,&sUP TACK OVERBARpDEL STILE",
    "jQUAD UP CARETiDELiUP TACK JOTlDOWN, VANEoQUAD DOWN,&sOTE UNDERBARoDELTA UNDERBARnIAMOND UNDERBARqJOT UNDERBAR",
    "mCIRCLE UNDERBARpUP SHOE JOTlQUOTE QUADkCIRCLE STARlQUAD COLONkUP TACK DIAERESISrDEL DIAERESISnSTAR DIAERESIS",
    "oJOT DIAERESISnCIRCLE DIAERESISqDOWN SHOE STILEp= SHOE STILEpTILDE DIAERESISpGREATER-THAN DIAERESISwCOMMA BAR",
    "jDEL TILDEjZILDEfSTILE TILDEkEMICOLON UNDERBARsQUAD NOT EQUALjQUESTIONnDOWN CARET TILDEqUP CARET TILDEoIOTAeRHO",
    "dOMEGAfALPHA UNDERBARoEPSILON UNDERBARqIOTA UNDERBARnOMEGA UNDERBARoALPHA;2385:bbWHITE SQUARE#CENTRE _ LINE",
    "2389:bmCIRCLED HORIZONTAL BAR#NOTCHzTRIANGLE DOWN;2395:vAPL FUNCTIONAL~ QUAD;23af:baHORIZONTAL LINE EXTENSION",
    "zUPPER = OR LOWER ) CURLY BRACKET SECTIONbp) OR LOWER = CURLY BRACKET SECTION;23b4:bvTOP SQUARE BRACKET",
    "sBOTTOM SQUARE BRACKETa OVER TOP SQUARE BRACKET;23ba:btHORIZONTAL SCAN LINE-1b3b7b9wDENTISTRY~ LIGHT _*TOP )",
    "jBOTTOM )qWITH CIRCLEuDOWN*HORIZONTAL#CIRCLEbfUP*HORIZONTAL#CIRCLEbd_#TRIANGLEwDOWN*HORIZONTAL#TRIANGLE",
    "bhUP*HORIZONTAL#TRIANGLEbf_*WAVErDOWN*HORIZONTAL#WAVEbdUP*HORIZONTAL#WAVEbbDOWN*HORIZONTALtUP*HORIZONTAL",
    "r_*TOP =iBOTTOM =bvSQUARE FOOT;23dc:lTOP PARENTHESISpBOTTOM PARENTHESISsTOP CURLY BRACKETrBOTTOM CURLY BRACKET",
    "uTOP TORTOISE SHELL BRACKETbaBOTTOM TORTOISE SHELL BRACKETbdWHITE TRAPEZIUM;23e9:pBLACK )-POINTING >@",
    "be=-POINTING >@bdUP-POINTING >@bbDOWN-POINTING >@bd)-POINTING >@#_ BARbw=-POINTING >@#_ BAR",
    "bv)-POINTING@#> _ BAR;23f4:bwMEDIUM =-POINTING@w)-POINTING@xUP-POINTING@uDOWN-POINTING@;23f9:bdSQUARE FOR STOP",
    "pCIRCLE FOR RECORD;2400:xSYMBOL FOR NULLeSTART OF HEADINGhTEXTnEND OF TEXTdRANSMISSIONrQUIRYhACKNOWLEDGElBELL",
    "dACKSPACEjHORIZONTAL TABULATIONvLINE FEEDj_ TABULATIONtFORM FEEDjCARRIAGE RETURNpSHIFT OUTdINiDATA LINK ESCAPE",
    "pEVICE CONTROL ONEdTWOcHREEfFOURtNEGATIVE ACKNOWLEDGEuSYNCHRONOUS IDLEqEND OF TRANSMISSION BLOCKzCANCEL",
    "gEND OF MEDIUMnSUBSTITUTEkESCAPEgFILE SEPARATORoGROUP SEPARATORpRECORD SEPARATORqUNIT SEPARATORoSPACEfDELETE",
    "2423:rOPEN BOXiSYMBOL FOR NEWLINEhDELETE( TWOpSUBSTITUTE( TWO;2460:beCIRCLED DIGIT ONEdTWOcHREEfFOURdIVEeSIX",
    "cEVENfEIGHTfNINEkNUMBER TENdELEVENgTWELVEfHIRTEENiFOURTEENhIFTEENhSIXTEENgEVENTEENjEIGHTEENiNINETEENiTWENTY",
    "vPARENTHESIZED DIGIT ONEdTWOcHREEfFOURdIVEeSIXcEVENfEIGHTfNINEkNUMBER TENdELEVENgTWELVEfHIRTEENiFOURTEENhIFTEEN",
    "hSIXTEENgEVENTEENjEIGHTEENiNINETEENiTWENTY;249c:nLATIN %!AbBbCbDbEbFbGbHbIbJbKbLbMbNbObPbQbRbSbTbUbVbWbXbYbZ",
    "biCIRCLED LATIN $!AbBbCbDbEbFbGbHbIbJbKbLbMbNbObPbQbRbSbTbUbVbWbXbYbZq%!AbBbCbDbEbFbGbHbIbJbKbLbMbNbObPbQbRbSbT",
    "bUbVbWbXbYbZuDIGIT ZEROsNEGATIVE CIRCLED NUMBER ELEVENgTWELVEfHIRTEENiFOURTEENhIFTEENhSIXTEENgEVENTEENjEIGHTEEN",
    "iNINETEENiTWENTY;24ff:nDIGIT ZERObbBOX DRAWINGS LIGHT HORIZONTALqHEAVY HORIZONTALqLIGHT _oHEAVY _",
    "oLIGHT TRIPLE DASH HORIZONTALbcHEAVY TRIPLE DASH HORIZONTALbcLIGHT TRIPLE DASH _baHEAVY TRIPLE DASH _",
    "baLIGHT QUADRUPLE DASH HORIZONTALbfHEAVY QUADRUPLE DASH HORIZONTALbfLIGHT QUADRUPLE DASH _",
    "bdHEAVY QUADRUPLE DASH _bdLIGHT DOWN*)uDOWN LIGHT*) HEAVYvHEAVY*) LIGHTbaHEAVY DOWN*)uLIGHT DOWN*=",
    "tDOWN LIGHT*= HEAVYuHEAVY*= LIGHTzHEAVY DOWN*=tLIGHT UP*)sUP LIGHT*) HEAVYvHEAVY*) LIGHTyHEAVY UP*)sLIGHT UP*=",
    "rUP LIGHT*= HEAVYuHEAVY*= LIGHTxHEAVY UP*=rLIGHT _*)y_ LIGHT*) HEAVYbeUP HEAVY*) DOWN LIGHT",
    "bdDOWN HEAVY*) UP LIGHTbd_ HEAVY*) LIGHTbeDOWN LIGHT*) UP HEAVYbdUP LIGHT*) DOWN HEAVYbdHEAVY _*)yLIGHT _*=",
    "x_ LIGHT*= HEAVYbdUP HEAVY*= DOWN LIGHTbcDOWN HEAVY*= UP LIGHTbc_ HEAVY*= LIGHTbdDOWN LIGHT*= UP HEAVY",
    "bcUP LIGHT*= DOWN HEAVYbcHEAVY _*=xLIGHT DOWN*HORIZONTALyEFT HEAVY*) DOWN LIGHTbf) HEAVY*= DOWN LIGHT",
    "bfDOWN LIGHT*HORIZONTAL HEAVYbaHEAVY*HORIZONTAL LIGHTbf) LIGHT*= DOWN HEAVYbf= LIGHT*) DOWN HEAVY",
    "bfHEAVY DOWN*HORIZONTALzLIGHT UP*HORIZONTALwEFT HEAVY*) UP LIGHTbd) HEAVY*= UP LIGHTbdUP LIGHT*HORIZONTAL HEAVY",
    "baHEAVY*HORIZONTAL LIGHTbd) LIGHT*= UP HEAVYbd= LIGHT*) UP HEAVYbdHEAVY UP*HORIZONTALxLIGHT _*HORIZONTAL",
    "bcEFT HEAVY*) _ LIGHTbj) HEAVY*= _ LIGHTbj_ LIGHT*HORIZONTAL HEAVYbjUP HEAVY*DOWN HORIZONTAL LIGHT",
    "biDOWN HEAVY*UP HORIZONTAL LIGHTbi_ HEAVY*HORIZONTAL LIGHTbj= UP HEAVY*) DOWN LIGHTbi) UP HEAVY*= DOWN LIGHT",
    "bi= DOWN HEAVY*) UP LIGHTbi) DOWN HEAVY*= UP LIGHTbiDOWN LIGHT*UP HORIZONTAL HEAVY",
    "biUP LIGHT*DOWN HORIZONTAL HEAVYbi) LIGHT*= _ HEAVYbj= LIGHT*) _ HEAVYbjHEAVY _*HORIZONTAL",
    "bdLIGHT > DASH HORIZONTALbcHEAVY > DASH HORIZONTALbcLIGHT > DASH _baHEAVY > DASH _ba> HORIZONTALk_",
    "nWN SINGLE*) >x>*) SINGLEbaUBLE DOWN*)tWN SINGLE*= >w>*= SINGLEzUBLE DOWN*=uUP SINGLE*) >x>*) SINGLEba> UP*)",
    "tUP SINGLE*= >w>*= SINGLEz> UP*=s_ SINGLE*) >x>*) SINGLEbg> _*)z_ SINGLE*= >w>*= SINGLEbf> _*=",
    "wWN SINGLE*HORIZONTAL >bc>*HORIZONTAL SINGLEbfUBLE DOWN*HORIZONTALbaUP SINGLE*HORIZONTAL >bc>*HORIZONTAL SINGLE",
    "bf> UP*HORIZONTALy_ SINGLE*HORIZONTAL >bc>*HORIZONTAL SINGLEbl> _*HORIZONTALbeLIGHT ARC DOWN*)f=nUP*=e)",
    "qDIAGONAL UPPER ) TO LOWER =t= TO LOWER )zCROSSo=eUPc)fDOWNkHEAVY =eUPc)fDOWNkLIGHT =*HEAVY )uUP*HEAVY DOWN",
    "xHEAVY =*LIGHT )uUP*LIGHT DOWNbkUPPER HALF BLOCKqLOWER ONE EIGHTH BLOCKmQUARTER BLOCKrTHREE EIGHTHS BLOCK",
    "tHALF BLOCKkFIVE EIGHTHS BLOCKsTHREE QUARTERS BLOCKuSEVEN EIGHTHS BLOCK;258c:yEFT HALF BLOCK;2591:oIGHT SHADE",
    "lMEDIUM SHADE;2594:mUPPER ONE EIGHTH BLOCK;25a0:wBLACK SQUAREmWHITE SQUAREa#ROUNDED CORNERS",
    "uCONTAINING BLACK % SQUAREbqSQUARE#HORIZONTAL FILLp_ FILLnORTHOGONAL CROSSHATCH FILLbaUPPER = TO LOWER ) FILL",
    "y) TO LOWER = FILLbeDIAGONAL CROSSHATCH FILLbkBLACK % SQUAREsWHITE % SQUAREsBLACK RECTANGLEpWHITE RECTANGLE",
    "pBLACK _ RECTANGLEyWHITE _ RECTANGLEyBLACK PARALLELOGRAMtWHITE PARALLELOGRAMtBLACK UP-POINTING@",
    "baWHITE UP-POINTING@baBLACK UP-POINTING %@bgWHITE UP-POINTING %@bgBLACK )-POINTING@bdWHITE )-POINTING@",
    "bdBLACK )-POINTING %@bjWHITE )-POINTING %@bjBLACK )-POINTING POINTERbcWHITE )-POINTING POINTER",
    "bcBLACK DOWN-POINTING@bcWHITE DOWN-POINTING@bcBLACK DOWN-POINTING %@biWHITE DOWN-POINTING %@biBLACK =-POINTING@",
    "bcWHITE =-POINTING@bcBLACK =-POINTING %@biWHITE =-POINTING %@biBLACK =-POINTING POINTER",
    "bbWHITE =-POINTING POINTERbbBLACK DIAMONDnWHITE DIAMONDa CONTAINING BLACK % DIAMOND;25cb:bmCIRCLE",
    "25cd:mCIRCLE#_ FILL;25cf:zBLACK CIRCLEmCIRCLE#= HALF BLACKp) HALF BLACKqLOWER HALF BLACKqUPPER HALF BLACK",
    "k) QUADRANT BLACKbaALL BUT UPPER = QUADRANT BLACKbt= HALF BLACK CIRCLE;25da:wUPPER HALF INVERSE WHITE CIRCLE",
    "bfLOWER HALF INVERSE WHITE CIRCLEbfUPPER = QUADRANT CIRCULAR ARCba) QUADRANT CIRCULAR ARC",
    "bhLOWER ) QUADRANT CIRCULAR ARCbb= QUADRANT CIRCULAR ARCbgUPPER HALF CIRCLErLOWER HALF CIRCLErBLACK LOWER )@o=@",
    "tUPPER =@n)@baWHITE BULLETmSQUARE#= HALF BLACKp) HALF BLACKqUPPER = DIAGONAL HALF BLACK",
    "beLOWER ) DIAGONAL HALF BLACKbrWHITE SQUARE#_ BISECTING LINEbjUP-POINTING@#DOT;25ef:bjLARGE CIRCLE",
    "mWHITE SQUARE#UPPER = QUADRANTtLOWER = QUADRANTn) QUADRANTuUPPER ) QUADRANTbgCIRCLE#UPPER = QUADRANT",
    "tLOWER = QUADRANTn) QUADRANTuUPPER ) QUADRANTbmUPPER =@n)@uLOWER =@tWHITE MEDIUM SQUAREtBLACK MEDIUM SQUARE",
    "tWHITE MEDIUM % SQUAREzBLACK MEDIUM % SQUAREzLOWER )@uBLACK SUN#RAYS;2605:mTARkWHITE STAR;260e:kBLACK TELEPHONE",
    "pWHITE TELEPHONE;2616:jSHOGI PIECErBLACK SHOGI PIECE;2619:rREVERSED ROTATED FLORAL HEART BULLET",
    "bkBLACK = POINTING INDEXt) POINTING INDEXbaWHITE = POINTING INDEXtUP POINTING INDEXr) POINTING INDEX",
    "uDOWN POINTING INDEX;2639:tFROWNING FACEnSMILING FACEsBLACK SMILING FACEsWHITE SUN#RAYS;2654:nCHESS KINGeQUEEN",
    "fROOKeBISHOPgKNIGHTgPAWNqBLACK CHESS KINGeQUEENfROOKeBISHOPgKNIGHTgPAWNkSPADE SUITqWHITE HEART SUIT",
    "kDIAMOND SUITsBLACK CLUB SUITpWHITE SPADE SUITqBLACK HEART SUITkDIAMOND SUITsWHITE CLUB SUIT",
    "267b:pBLACK UNIVERSAL RECYCLING~;2686:bgWHITE CIRCLE#DOT )jTWO DOTSbaBLACK CIRCLE#WHITE DOT )pTWO WHITE DOTS",
    "2690:bgWHITE FLAGkBLACK FLAG;269e:kTHREE LINES CONVERGING )f=;26a9:bbHORIZONTAL MALE#STROKE.",
    "bgMEDIUM WHITE CIRCLEmBLACK CIRCLEm% WHITE CIRCLE;26b8:zBLACK MOON LILITH;26bf:rSQUARED KEYlWHITE DRAUGHTS MAN",
    "dKINGtBLACK DRAUGHTS MANdKING;26c7:nSNOWMAN;26c9:nTURNED WHITE SHOGI PIECErBLACK SHOGI PIECE",
    "yWHITE DIAMOND IN SQUARE;26d2:xCIRCLED CROSSING LANES;26d6:wBLACK TWO-WAY = WAY TRAFFIC",
    "beWHITE TWO-WAY = WAY TRAFFICbeBLACK = LANE MERGEvWHITE = LANE MERGE;26db:vHEAVY WHITE DOWN-POINTING@",
    "26dd:biSQUARED SALTIRE;26df:pBLACK TRUCK;26e3:lHEAVY CIRCLE#STROKE*TWO DOTS+;26e8:brBLACK CROSS ON SHIELD",
    "26f6:vSQUARE FOUR CORNERS;26f9:tPERSON#BALL;26ff:qWHITE FLAG#HORIZONTAL MIDDLE BLACK STRIPE",
    "buBLACK SAFETY SCISSORSvUPPER BLADE SCISSORSuBLACK SCISSORSoLOWER BLADE SCISSORSuWHITE SCISSORSiHEAVY CHECK|",
    "270a:wRAISED FISTeHAND;270e:lLOWER ) PENCIL;2710:sUPPER ) PENCILsWHITE NIBjBLACK NIB;2714:jHEAVY CHECK|",
    "2716:kMULTIPLICATION X;2718:qBALLOT X;271a:iGREEK CROSSrOPEN CENTRE CROSSrHEAVY OPEN CENTRE CROSSxLATIN CROSS",
    "2724:lHEAVY FOUR BALLOON-SPOKED ASTERISK;2726:biBLACK FOUR POINTED STARxWHITE FOUR POINTED STAR",
    "272a:xCIRCLED WHITE STARsOPEN CENTRE BLACK STARwBLACK CENTRE WHITE STAR;272e:xHEAVY OUTLINED BLACK STAR",
    "2731:tASTERISKoOPEN CENTRE ASTERISK;2738:uHEAVY EIGHT POINTED RECTILINEAR BLACK STAR",
    "273c:bqOPEN CENTRE TEARDROP-SPOKED ASTERISKbkHEAVY TEARDROP-SPOKED ASTERISK;273f:beBLACK FLORETTE",
    "oWHITE FLORETTE;2742:oCIRCLED OPEN CENTRE EIGHT POINTED STARbmHEAVY TEARDROP-SPOKED PINWHEEL ASTERISK",
    "2746:bhCHEVRON SNOWFLAKE;2748:rSPARKLE;274b:hEIGHT TEARDROP-SPOKED PROPELLER ASTERISK",
    "274e:buNEGATIVE SQUARED CROSS|bbLOWER ) DROP-SHADOWED WHITE SQUAREbmUPPER ) DROP-SHADOWED WHITE SQUARE",
    "bmLOWER ) SHADOWED WHITE SQUAREbhUPPER ) SHADOWED WHITE SQUAREbhBLACK QUESTION| ORNAMENT",
    "bcWHITE QUESTION| ORNAMENTwEXCLAMATION| ORNAMENTbfBLACK DIAMOND MINUS WHITE XbbHEAVY EXCLAMATION|~bdLIGHT _ BAR",
    "sMEDIUM _ BARtHEAVY _ BARmSINGLE TURNED COMMA QUOTATION| ORNAMENTbkCOMMA QUOTATION| ORNAMENT",
    "bk> TURNED COMMA QUOTATION| ORNAMENTbkCOMMA QUOTATION| ORNAMENTbkLOW SINGLE COMMA QUOTATION| ORNAMENT",
    "bk> COMMA QUOTATION| ORNAMENT;2762:boEXCLAMATION| ORNAMENTzHEART EXCLAMATION| ORNAMENTbfBLACK HEART",
    "2768:rMEDIUM = PARENTHESIS ORNAMENTz) PARENTHESIS ORNAMENTbaFLATTENED = PARENTHESIS ORNAMENT",
    "z) PARENTHESIS ORNAMENTbk=-POINTING ANGLE BRACKET ORNAMENTbk)-POINTING ANGLE BRACKET ORNAMENT",
    "bsHEAVY =-POINTING ANGLE QUOTATION| ORNAMENTbr)-POINTING ANGLE QUOTATION| ORNAMENT",
    "bs=-POINTING ANGLE BRACKET ORNAMENTbk)-POINTING ANGLE BRACKET ORNAMENTbrLIGHT = TORTOISE SHELL BRACKET ORNAMENT",
    "bk) TORTOISE SHELL BRACKET ORNAMENTbrMEDIUM = CURLY BRACKET ORNAMENTbb) CURLY BRACKET ORNAMENT",
    "bjDINGBAT NEGATIVE CIRCLED DIGIT ONEdTWOcHREEfFOURdIVEeSIXcEVENfEIGHTfNINEkNUMBER TEN",
    "bbCIRCLED SANS-SERIF DIGIT ONEdTWOcHREEfFOURdIVEeSIXcEVENfEIGHTfNINEkNUMBER TEN",
    "bdNEGATIVE CIRCLED SANS-SERIF DIGIT ONEdTWOcHREEfFOURdIVEeSIXcEVENfEIGHTfNINEkNUMBER TENbuHEAVY WIDE-HEADED ),&",
    "bcPLUS.jMINUS.kDIVISION.nSOUTH EAST&q),&qNORTH EAST&;279c:qROUND-TIPPED ),&;279e:bdTRIANGLE-HEADED ),&",
    "27a0:bgDASHED@-HEADED ),&btBLACK ),&;27a4:aHEADbaHEAVY BLACK CURVED DOWN,*),&beUP,*),&",
    "27a8:bpCONCAVE-POINTED BLACK ),&;27ad:bmLOWER )-SHADOWED WHITE ),&brUPPER )-SHADOWED WHITE ),&",
    "27b2:bxCIRCLED HEAVY WHITE ),&;27b7:bkHEAVY BLACK-FEATHERED SOUTH EAST&q),&qNORTH EAST&",
    "27bb:bgTEARDROP-SHANKED ),&;27bd:bhWEDGE-TAILED ),&;27c0:bjTHREE DIMENSIONAL ANGLExWHITE@ CONTAINING % WHITE@",
    "27c3:buOPEN SUBSETePERSET;27c9:nSUPERSET PRECEDING SOLIDUS;27cb:baMATHEMATICAL RISING DIAGONALbcLONG DIVISION",
    "nMATHEMATICAL FALLING DIAGONALbdSQUARED LOGICAL ANDdORsWHITE DIAMOND#CENTRED DOT;27d3:beLOWER ) CORNER#DOT",
    "bbUPPER = CORNER#DOT;27d8:baLARGE UP TACKhDOWN TACK;27dd:oONG ) TACKk= TACKoUP TACK#CIRCLE+",
    "27e1:zWHITE CONCAVE-SIDED DIAMONDa#=, TICKo), TICKbqSQUARE#=, TICKo), TICKbhMATHEMATICAL = WHITE SQUARE BRACKET",
    "z) WHITE SQUARE BRACKETba= ANGLE BRACKETs) ANGLE BRACKETt= > ANGLE BRACKETz) > ANGLE BRACKET",
    "ba= WHITE TORTOISE SHELL BRACKETbh) WHITE TORTOISE SHELL BRACKETbi= FLATTENED PARENTHESIS",
    "ba) FLATTENED PARENTHESISboUP, QUADRUPLE&xDOWN, QUADRUPLE&zANTICLOCKWISE GAPPED CIRCLE&;27f5:bhLONG =,&p),&",
    "q= )&m, >&w), >&x= ) >&t,& FROM BARy),& FROM BARz=, >& FROM BARbf), >& FROM BARvSQUIGGLE&",
    "beBRAILLE PATTERN BLANKfDOTS-1b2b12c3b13c23c123d4b14c24c124d34c134d234d1234e5b15c25c125d35c135d235d1235e45c145",
    "d245d1245e345d1345e2345e12345f6b16c26c126d36c136d236d1236e46c146d246d1246e346d1346e2346e12346f56c156d256d1256",
    "e356d1356e2356e12356f456d1456e2456e12456f3456e13456f23456f123456g7b17c27c127d37c137d237d1237e47c147d247d1247",
    "e347d1347e2347e12347f57c157d257d1257e357d1357e2357e12357f457d1457e2457e12457f3457e13457f23457f123457g67c167d267",
    "d1267e367d1367e2367e12367f467d1467e2467e12467f3467e13467f23467f123467g567d1567e2567e12567f3567e13567f23567",
    "f123567g4567e14567f24567f124567g34567f134567g234567g1234567h8b18c28c128d38c138d238d1238e48c148d248d1248e348",
    "d1348e2348e12348f58c158d258d1258e358d1358e2358e12358f458d1458e2458e12458f3458e13458f23458f123458g68c168d268",
    "d1268e368d1368e2368e12368f468d1468e2468e12468f3468e13468f23468f123468g568d1568e2568e12568f3568e13568f23568",
    "f123568g4568e14568f24568f124568g34568f134568g234568g1234568h78c178d278d1278e378d1378e2378e12378f478d1478e2478",
    "e12478f3478e13478f23478f123478g578d1578e2578e12578f3578e13578f23578f123578g4578e14578f24578f124578g34578f134578",
    "g234578g1234578h678d1678e2678e12678f3678e13678f23678f123678g4678e14678f24678f124678g34678f134678g234678g1234678",
    "h5678e15678f25678f125678g35678f135678g235678g1235678h45678f145678g245678g1245678h345678g1345678h2345678",
    "h12345678bd), TWO-HEADED&#_ STROKEp> _ STROKEcd=, >&#_ STROKEbr), >&#_ STROKEbs= ) >&#_ STROKE",
    "bs), TWO-HEADED& FROM BARbk=, >& FROM BARbf), >& FROM BARbgDOWN,&#HORIZONTAL STROKEbmUP,&#HORIZONTAL STROKE",
    "bcTRIPLE&uDOWN, TRIPLE&w=, > DASH&bb), > DASH&bc=, TRIPLE DASH&bb), TRIPLE DASH&qWO-HEADED TRIPLE DASH&",
    "bcARROW#DOTTED STEMbhUP,& TO BARuDOWN,& TO BARw),&#TAIL#_ STROKEp> _ STROKEbrTWO-HEADED&#TAILa#_ STROKE",
    "p> _ STROKEcn=,&-TAILu),&-TAILv=, >&-TAILbb), >&-TAILbc=,& TO BLACK DIAMONDbg),& TO BLACK DIAMOND",
    "bh=,& FROM BAR TO BLACK DIAMONDbp),& FROM BAR TO BLACK DIAMONDbqNORTH WEST*SOUTH EAST&zEAST*SOUTH WEST&",
    "zWEST&#HOOKuEAST&#HOOKbaSOUTH EAST&#HOOKuWEST&#HOOKbaNORTH WEST&*NORTH EAST&bfEAST&*SOUTH EAST&",
    "blSOUTH EAST&*SOUTH WEST&bfWEST&*NORTH WEST&;292d:bfEAST& CROSSING NORTH EAST&",
    "bqNORTH EAST& CROSSING SOUTH EAST&;2931:qNORTH WEST&bkWEST& CROSSING NORTH EAST&;293a:bqTOP ARC ANTICLOCKWISE&",
    "bbBOTTOM ARC ANTICLOCKWISE&beTOP ARC CLOCKWISE&#MINUSbaANTICLOCKWISE&#PLUSblLOWER ) SEMICIRCULAR CLOCKWISE&",
    "bi= SEMICIRCULAR ANTICLOCKWISE&brANTICLOCKWISE CLOSED CIRCLE&;2942:bh),&+ SHORT =,&bs=,&+ SHORT ),&",
    "2945:bs),&#PLUS?bg=,&#PLUS?bf),& THROUGH Xba= )& THROUGH % CIRCLEblUP, TWO-HEADED& FROM % CIRCLE",
    "294c:bo BARB ) DOWN BARB = HARPOONbc= DOWN BARB ) HARPOON;294f:bc) DOWN BARB ) HARPOON",
    "2951:bd= DOWN BARB = HARPOONbj=, HARPOON#BARB UP TO BARbl), HARPOON#BARB UP TO BARbmUP, HARPOON#BARB ) TO BAR",
    "bmDOWN, HARPOON#BARB ) TO BARbo=, HARPOON#BARB DOWN TO BARbn), HARPOON#BARB DOWN TO BAR",
    "boUP, HARPOON#BARB = TO BARblDOWN, HARPOON#BARB = TO BARbn=, HARPOON#BARB UP FROM BAR",
    "bn), HARPOON#BARB UP FROM BARboUP, HARPOON#BARB ) FROM BARboDOWN, HARPOON#BARB ) FROM BAR",
    "bq=, HARPOON#BARB DOWN FROM BARbp), HARPOON#BARB DOWN FROM BARbqUP, HARPOON#BARB = FROM BAR",
    "bnDOWN, HARPOON#BARB = FROM BARbp=, HARPOON#BARB UP+ =, HARPOON#BARB DOWN",
    "crUP, HARPOON#BARB = BESIDE UP, HARPOON#BARB )cr), HARPOON#BARB UP+ ), HARPOON#BARB DOWN",
    "ctDOWN, HARPOON#BARB = BESIDE DOWN, HARPOON#BARB )cv=, HARPOON#BARB UP+ ), HARPOON#BARB UP",
    "boDOWN+ ), HARPOON#BARB DOWNcu), HARPOON#BARB UP+ =, HARPOON#BARB UPbnDOWN+ =, HARPOON#BARB DOWN",
    "cu=, HARPOON#BARB UP+ LONG DASHsDOWN? LONG DASHbw), HARPOON#BARB UP+ LONG DASHsDOWN? LONG DASH",
    "bxUP, HARPOON#BARB = BESIDE DOWN, HARPOON#BARB )ctDOWN, HARPOON#BARB = BESIDE UP, HARPOON#BARB )",
    "2973:ct=,&+ TILDE OPERATORbk),&+ TILDE OPERATORoALMOST EQUAL TO;2977:bm=,& THROUGH LESS-THAN;2979:bhSUBSET+ ),&",
    "bd=,& THROUGH SUBSETbeSUPERSET+ =,&;297e:beUP FISH TAIL;2980:mTRIPLE _ BAR DELIMITERbdZ NOTATION SPOT",
    "eTYPE COLON;2987:k= IMAGE BRACKETs) IMAGE BRACKETt= BINDING BRACKETu) BINDING BRACKET",
    "299b:bgMEASURED ANGLE OPENING =;299d:s) ANGLE#DOT;29a2:bdTURNED ANGLEmREVERSED ANGLE;29a5:a#UNDERBAR",
    "29a8:bcMEASURED ANGLE#OPEN ARM ENDING IN& POINTING UP*)f=lDOWN*)f=n)*UPm=*UPl)*DOWNo=*DOWNcpREVERSED EMPTY SET",
    "sEMPTY SET#OVERBARh% CIRCLE+s)&+r=&+bfCIRCLE#HORIZONTAL BARuD _ BARmPARALLELiREVERSE SOLIDUSpPERPENDICULAR",
    "p DIVIDED BY HORIZONTAL BAR*TOP HALF DIVIDED BY _ BARckWITH SUPERIMPOSED XuD ANTICLOCKWISE-ROTATED DIVISION.",
    "brUP& THROUGH CIRCLExCIRCLED WHITE BULLETmBULLETgLESS-THANjGREATER-THANo#% CIRCLE TO THE )",
    "zTWO HORIZONTAL STROKES TO THE )bvSQUARED RISING DIAGONAL SLASHvFALLING DIAGONAL SLASHwASTERISKi% CIRCLElQUARE",
    "oTWO JOINED SQUARES;29d3:sBLACK BOWTIE;29d6:mWHITE HOURGLASSpBLACK HOURGLASS;29e0:pSQUARE#CONTOURED OUTLINE",
    "29ea:bdBLACK DIAMOND#DOWN&xLOZENGEnWHITE CIRCLE#DOWN&bcBLACK CIRCLE#DOWN&;29fb:bcTRIPLE PLUS",
    "2a00:lN-ARY CIRCLED DOT OPERATORmPLUS OPERATORnTIMES OPERATORwUNION OPERATOR#DOTdPLUS",
    "ySQUARE INTERSECTION OPERATORvUNION OPERATORbbTWO LOGICAL*OPERATORmOR OPERATORxN-ARY TIMES OPERATOR",
    "2a11:uANTICLOCKWISE INTEGRATION;2a1e:zLARGE =@ OPERATORbcZ NOTATION SCHEMA COMPOSITIONlPIPINGfROJECTION",
    "2a36:bcCIRCLED MULTIPLICATION.#CIRCUMFLEX ACCENT;2a38:bqDIVISION.;2a3e:vZ NOTATION RELATIONAL COMPOSITION",
    "2a4c:bhCLOSED UNION#SERIFSrINTERSECTION#SERIFS;2a50:yUNION#SERIFS*SMASH PRODUCTbqLOGICAL AND#DOT+sOR#DOT+",
    "2a55:zTWO INTERSECTING LOGICAL ANDdOR;2a59:bbLOGICAL OR OVERLAPPING LOGICAL ANDbaAND#MIDDLE STEMuOR#MIDDLE STEM",
    "tAND#HORIZONTAL DASHyOR#HORIZONTAL DASHxAND#> OVERBARoUNDERBARi> UNDERBAR;2a62:yOR#> OVERBARhUNDERBAR",
    "bfZ NOTATION DOMAIN ANTIRESTRICTIONwRANGE ANTIRESTRICTION;2a68:bgTRIPLE HORIZONTAL BAR#> _ STROKE",
    "wTRIPLE _ STROKE;2a75:bwWO CONSECUTIVE EQUALS.SbbHREE CONSECUTIVE EQUALS.S;2abd:beSUBSET#DOTnPERSET#DOT",
    "pBSET#PLUS.?zPERSET#PLUS.?bbBSET#MULTIPLICATION.?bjPERSET#MULTIPLICATION.?blBSET OF OR EQUAL TO#DOT+",
    "biPERSET OF OR EQUAL TO#DOT+bkBSET OF+ EQUALS.zPERSET OF+ EQUALS.bbBSET OF+ TILDE OPERATOR",
    "bcPERSET OF+ TILDE OPERATORbeBSET OF+ ALMOST EQUAL TObdPERSET OF+ ALMOST EQUAL TObfBSET OF+ NOT EQUAL TO",
    "baPERSET OF+ NOT EQUAL TObdQUARE = OPEN BOX OPERATORw) OPEN BOX OPERATORbeCLOSED SUBSETePERSETgBSET OR EQUAL TO",
    "qPERSET OR EQUAL TObbSUBSET+ SUPERSETtPERSET+ SUBSETtBSET+ SUBSETrPERSET+ SUPERSEToBESIDE SUBSET",
    "gAND JOINED BY DASH#SUBSET;2ae6:buLONG DASH FROM = MEMBER OF > _;2aed:btREVERSED > STROKE NOT.",
    "2af4:bfTRIPLE _ BAR BINARY RELATIONpWITH HORIZONTAL STROKEbjCOLON OPERATORoNESTED LESS-THANjGREATER-THAN",
    "2afb:tSOLIDUS BINARY RELATIONbeLARGE TRIPLE _ BAR OPERATOR;2afe:biWHITE _ BARsN-ARY WHITE _ BAR",
    "xORTH EAST WHITE&qWEST WHITE&wSOUTH EAST WHITE&qWEST WHITE&w= ) WHITE&s, BLACK&vUP, BLACK&tDOWN, BLACK&",
    "vNORTH EAST BLACK&qWEST BLACK&wSOUTH EAST BLACK&qWEST BLACK&w= ) BLACK&wUP DOWN BLACK&t),&#TIP DOWN,jUP,",
    "bh=,&#TIP DOWN,jUP,bgSQUARE#TOP HALF BLACKoBOTTOM HALF BLACKrUPPER ) DIAGONAL HALF BLACK",
    "bfLOWER = DIAGONAL HALF BLACK;2b1b:bqBLACK LARGE SQUAREsWHITE LARGE SQUAREsBLACK VERY % SQUARE",
    "xWHITE VERY % SQUARExBLACK PENTAGONoWHITE PENTAGONiHEXAGONnBLACK HEXAGONnHORIZONTAL BLACK HEXAGON",
    "yBLACK LARGE CIRCLEmMEDIUM DIAMONDuWHITE MEDIUM DIAMONDuBLACK MEDIUM LOZENGEuWHITE MEDIUM LOZENGE",
    "uBLACK % DIAMONDhLOZENGEtWHITE % LOZENGEtBLACK HORIZONTAL ELLIPSEyWHITE HORIZONTAL ELLIPSEyBLACK _ ELLIPSE",
    "wWHITE _ ELLIPSE;2b31:wTHREE =,&S;2b33:wLONG =, SQUIGGLE&bcEFT, TWO-HEADED&#_ STROKEp> _ STROKEbbFROM BAR",
    "oTRIPLE DASH&bcARROW#DOTTED STEMlTAIL#_ STROKEp> _ STROKEbrTWO-HEADED&#TAILa#_ STROKEp> _ STROKE",
    "ccARROW THROUGH X;2b42:jABOVE REVERSE ALMOST EQUAL TObt),& THROUGH GREATER-THANmSUPERSETbh=, QUADRUPLE&",
    "z), QUADRUPLE&;2b48:pARROW+ REVERSE ALMOST EQUAL TO;2b4a:bu=,&+ ALMOST EQUAL TOpREVERSE TILDE OPERATOR",
    "bs),&+ REVERSE TILDE OPERATORbtDOWN,@-HEADED ZIGZAG&;2b50:bmWHITE MEDIUM STARrBLACK % STARqWHITE % STAR",
    "qBLACK )-POINTING PENTAGONbdWHITE )-POINTING PENTAGONbdHEAVY LARGE CIRCLEmOVAL#OVAL INSIDEvCIRCLE#CIRCLE INSIDE",
    "uEaD SALTIRE;2b60:v=,@-HEADED&bfUP,@-HEADED&bd),@-HEADED&bgDOWN,@-HEADED&bf= )@-HEADED&bgUP DOWN@-HEADED&",
    "bdNORTH WEST@-HEADED&baEAST@-HEADED&bgSOUTH EAST@-HEADED&baWEST@-HEADED&bg=,@-HEADED DASHED&",
    "bmUP,@-HEADED DASHED&bk),@-HEADED DASHED&bnDOWN,@-HEADED DASHED&;2b6f:bmANTICLOCKWISE@-HEADED OPEN CIRCLE&",
    "bv=,@-HEADED& TO BARbmUP,@-HEADED& TO BARbk),@-HEADED& TO BARbnDOWN,@-HEADED& TO BAR",
    "2b76:bmNORTH WEST@-HEADED& TO BARbhEAST@-HEADED& TO BARbnSOUTH EAST@-HEADED& TO BARbhWEST@-HEADED& TO BAR",
    "bn=,@-HEADED&#> HORIZONTAL STROKEcjUP,@-HEADED&#> HORIZONTAL STROKEch),@-HEADED&#> HORIZONTAL STROKE",
    "ckDOWN,@-HEADED&#> HORIZONTAL STROKEcjHORIZONTAL TAB KEY;2b80:s=,@-HEADED& OVER ),@-HEADED&",
    "crUP,@-HEADED& =, OF DOWN,@-HEADED&cw),@-HEADED& OVER =,@-HEADED&crDOWN,@-HEADED& =, OF UP,@-HEADED&",
    "cw=,@-HEADED PAIRED&SbnUP,@-HEADED PAIRED&Sbl),@-HEADED PAIRED&SboDOWN,@-HEADED PAIRED&S",
    "bn=, BLACK CIRCLED WHITE&bjUP, BLACK CIRCLED WHITE&bh), BLACK CIRCLED WHITE&bkDOWN, BLACK CIRCLED WHITE&",
    "bjANTICLOCKWISE@-HEADED ) U-SHAPED&uBOTTOM U-SHAPED&v= U-SHAPED&tTOP U-SHAPED&;2b95:bw), BLACK&",
    "2b97:wSYMBOL FOR TYPE A ELECTRONICS;2b9c:bdBLACK =, EQUILATERAL&HEADbfUP, EQUILATERAL&HEADbd), EQUILATERAL&HEAD",
    "bgDOWN, EQUILATERAL&HEADblDOWN,@-HEADED&#LONG TIP =,j),ceUP,@-HEADED&#LONG TIP =,j),cc=,@-HEADED&#LONG TIP UP,",
    "cb),@-HEADED&#LONG TIP UP,cc=,@-HEADED&#LONG TIP DOWN,cd),@-HEADED&#LONG TIP DOWN,ceBLACK CURVED DOWN,*=,&p),&",
    "beUP,*=,&p),&bc=,*UP,&bb),*UP,&bc=,*DOWN,&bd),*DOWN,&;2bb8:brUP, WHITE& FROM BAR#HORIZONTAL BAR",
    "bu&HEAD IN A RECTANGLE BOX;2bbe:bfCIRCLED XbBOLD XoBLACK SQUARE CENTREDoDIAMOND CENTREDvTURNED BLACK PENTAGON",
    "vHORIZONTAL BLACK OCTAGONyBLACK OCTAGONhMEDIUM UP-POINTING@ CENTREDbcDOWN-POINTING@ CENTRED",
    "be=-POINTING@ CENTREDbe)-POINTING@ CENTRED;2bca:bsTOP HALF BLACK CIRCLEvBOTTOM HALF BLACK CIRCLE",
    "yLIGHT FOUR POINTED BLACK CUSP;2bce:bdWHITE FOUR POINTED CUSP;2bd0:xSQUARE POSITION INDICATOR",
    "2bdd:zWHITE MOON SELENArBLACK DIAMOND ON CROSS;2be8:w= HALF BLACK STAR;2bec:q, TWO-HEADED&#TRIANGLE&HEADS",
    "bzUP, TWO-HEADED&#TRIANGLE&HEADSbx), TWO-HEADED&#TRIANGLE&HEADScaDOWN, TWO-HEADED&#TRIANGLE&HEADS",
    "2bfe:bzREVERSED ) ANGLE;2c00:uGLAGOLITIC $!AZUdBUKYeVEDEeGLAGOLIhDOBROfYESTUfZHIVETEhDZELOfZEMLJAgIZHE",
    "dNITIAL IZHEmIbDJERVIgKAKOeLJUDIJEhMYSLITEhNASHIfONUdPOKOJIgRITSIfSLOVOfTVRIDOgUKUdFRITUfHERUeOTUdPEcSHTAeTSI",
    "dCHRIVIgSHAdYERUbIdATIeSPIDERY HAkYUc% YUSa#TAILtYOcIOTATED % YUSrBIG YUShIOTATED BIG YUSpFITAeIZHITSAhSHTAPIC",
    "hTROKUTASTI AmLATINATE MYSLITEqCAUDATE CHRIVIbd%!AZUdBUKYeVEDEeGLAGOLIhDOBROfYESTUfZHIVETEhDZELOfZEMLJAgIZHE",
    "dNITIAL IZHEmIbDJERVIgKAKOeLJUDIJEhMYSLITEhNASHIfONUdPOKOJIgRITSIfSLOVOfTVRIDOgUKUdFRITUfHERUeOTUdPEcSHTAeTSI",
    "dCHRIVIgSHAdYERUbIdATIeSPIDERY HAkYUc% YUSa#TAILtYOcIOTATED % YUSrBIG YUShIOTATED BIG YUSpFITAeIZHITSAhSHTAPIC",
    "hTROKUTASTI AmLATINATE MYSLITEqCAUDATE CHRIVI;2cb4:bmCOPTIC $!OLD COPTIC AINbd%!OLD COPTIC AIN",
    "2cbe:bb$!OLD COPTIC OOUbd%!OLD COPTIC OOU;2cc4:bb$!OLD COPTIC SHEIbe%!OLD COPTIC SHEIbc$!OLD COPTIC ESH",
    "bd%!OLD COPTIC ESH;2ccc:bb$!OLD COPTIC HORIbe%!OLD COPTIC HORIbc$!OLD COPTIC HAbc%!OLD COPTIC HA",
    "2cd2:ba$!OLD COPTIC HEIbd%!OLD COPTIC HEIbb$!OLD COPTIC HATbd%!OLD COPTIC HATbb$!OLD COPTIC GANGIA",
    "bg%!OLD COPTIC GANGIAbe$!OLD COPTIC DJAbd%!OLD COPTIC DJAbb$!OLD COPTIC SHIMAbf%!OLD COPTIC SHIMA",
    "bd$!OLD NUBIAN SHIMAbf%!OLD NUBIAN SHIMAbd$!OLD NUBIAN NGIbd%!OLD NUBIAN NGIbb$!OLD NUBIAN NYI",
    "bd%!OLD NUBIAN NYIbb$!OLD NUBIAN WAUbd%!OLD NUBIAN WAUbaYMBOL KAIdMI ROfPI ROfSTAUROShTAU ROgKHI ROgSHIMA SIMA",
    "2cef:rCOMBINING NI+iSPIRITUS ASPERfLENIS;2cf9:yOLD NUBIAN FULL STOPjDIRECT QUESTION|uINDIRECT QUESTION|",
    "wVERSE DIVIDERyFRACTION ONE HALFqULL STOPjMORPHOLOGICAL DIVIDERbcGEORGIAN %!ANcBANdGANdDONdENcVINdZENdTANdIN",
    "cKANdLASdMANdNARdONcPARdZHAReRAEdSANdTARdUNcPHAReKHAReGHANeQARdSHINeCHINdANdJILdCILcHAReXANdJHANeHAEcEbIEdWE",
    "cHARcOE;2d27:dYN;2d2d:cAEN;2d30:zTIFINAGH!YAaBaHcGaHHfBERBER ACADEMY YAJsYAJbDaHbDaHeEYcAFbKdTUAREG YAKkYAKHHdH",
    "dBERBER ACADEMY YAHsTUAREG YAHkYAHHcAbKHeTUAREG YAKHlYAQdTUAREG YAQkYIbAZHeAHAGGAR YAZHmTUAREG YAZHlYALbMbN",
    "dTUAREG YAGNcNGlYAPcUbARaRcGHeTUAREG YAGHlAYER YAGHjYASaSbHcTaHcCHcTTcVbWbYbZdTAWELLEMET YAZoYAZZdEbO",
    "2d6f:jMODIFIER!LABIALIZATION|biSEPARATOR|;2d7f:oCONSONANT JOINER;2de0:zCOMBINING CYRILLIC!BEcVEcGHEdDEcZHEcEcKA",
    "cELbMbNcObPEcERbScTEcHAcTSEdCHEdSHAbCHAfFITAeES-TEfAbIEcDJERVfMONOGRAPH UKmYATcUcIOTIFIED AkLITTLE YUSkBIG YUS",
    "hIOTIFIED BIG YUS;2e06:bqRAISED INTERPOLATION|ERuDOTTED INTERPOLATION|ER;2e0b:bbSQUARE",
    "2e11:mEVERSED FORKED PARAGRAPHOS;2e14:bbDOWN, ANCORAqUP, ANCORA;2e22:oTOP = HALF BRACKETr) HALF BRACKET",
    "wBOTTOM = HALF BRACKETr) HALF BRACKET;2e2a:zTWO DOTS OVER ONE DOT PUNCTUATION",
    "2e2c:bhSQUARED FOUR DOT PUNCTUATION;2e2e:bcREVERSED QUESTION|;2e32:wTURNED COMMAmRAISED DOTdCOMMA",
    "mTURNED SEMICOLON;2e38:jDAGGERmOP HALF SECTION.;2e41:vREVERSED COMMA;2e4b:oTRIPLE DAGGER",
    "2e59:mOP HALF = PARENTHESISq) PARENTHESISbaBOTTOM HALF = PARENTHESISq) PARENTHESIS;2e80:bdCJK RADICAL REPEAT",
    "gCLIFFfSECOND ONEdTWOcHREEmPERSONgBOXdTABLEfKNIFE ONEdTWOjDIVINATIONkSEALdMALL ONEdTWOjLAME ONEdTWOcHREEfFOUR",
    "jSNAKEfTHREADgSNOUT ONEdTWOjHEART ONEdTWOiANDeRAP;2e9b:dCHOKEfSUNdMOONeDEATHfMOTHERgCIVILIANiWATER ONEdTWOjFIRE",
    "ePAW ONEdTWOhSIMPLIFIED HALF TREE TRUNKbaCOWdDOGdJADEeBOLT OF CLOTHnEYEdSPIRIT ONEdTWOkBAMBOOgSILK",
    "eC-SIMPLIFIED SILKrNET ONEdTWOcHREEfFOURiMESHeSHEEPfRAMdEWEdOLDdBRUSH ONEdTWOjMEATdORTARgGRASS ONEdTWOcHREE",
    "lTIGERfCLOTHEShWEST ONEdTWOiC-SIMPLIFIED SEEqSIMPLIFIED HORNpHORNeC-SIMPLIFIED SPEECHfHELLsFOOT",
    "eC-SIMPLIFIED CARTrSIMPLIFIED WALKpWALK ONEdTWOiCITYd-SIMPLIFIED GOLDrLONG ONEdTWOiC-SIMPLIFIED LONGeGATE",
    "rMOUND ONEdTWOjRAINeBLUEeC-SIMPLIFIED TANNED LEATHERoLEAFeWINDeFLYqEAT ONEdTWOcHREEjC-SIMPLIFIED EATqHEAD",
    "eC-SIMPLIFIED HORSEsBONEeGHOSTfC-SIMPLIFIED FISHeBIRDeSALTrSIMPLIFIED WHEATfYELLOWrC-SIMPLIFIED FROG",
    "rJ-SIMPLIFIED EVENrC-SIMPLIFIED EVENrJ-SIMPLIFIED TOOTHsC-SIMPLIFIED TOOTHsJ-SIMPLIFIED DRAGON",
    "tC-SIMPLIFIED DRAGONtTURTLEgJ-SIMPLIFIED TURTLEtC-SIMPLIFIED TURTLE;2f00:bfKANGXI RADICAL ONEdLINEeDOTdSLASH",
    "eECONDgHOOKeTWOdLIDdMANdLEGSeENTEReIGHTfDOWN BOXiCOVERfICEdTABLEfOPEN BOXiKNIFEfPOWERfWRAPeSPOONf) OPEN BOX",
    "oHIDING ENCLOSUREqTENdDIVINATIONkSEALeCLIFFfPRIVATEhAGAINfMOUTHfENCLOSUREiARTHfSCHOLARhGOa SLOWLYjEVENINGhBIG",
    "dWOMANfCHILDfROOFeINCHe%fLAMEeCORPSEgSPROUTgMOUNTAINiRIVERfWORKeONESELFhTURBANgDRYdSHORT THREADmDOTTED CLIFF",
    "mLONG STRIDElTWO HANDSjSHOOTfBOWdSNOUTfBRISTLEhSTEPeHEARTeALBERDhDOOReHANDeBRANCHgRAPdSCRIPTgDIPPERgAXEdSQUARE",
    "gNOTdSUNcAYdMOONeTREEeLACKeSTOPeDEATHfWEAPONgDO NOTgCOMPAREhFURdCLANeSTEAMfWATERfFIREeCLAWeFATHERg> X",
    "iHALF TREE TRUNKpSLICEfFANGeCOWdDOGdPROFOUNDiJADEeMELONfTILEeSWEETfLIFEeUSEdFIELDfBOLT OF CLOTHnSICKNESS",
    "iDOTTED TENTlWHITEfSKINeDISHeEYEdSPEARfARROWfSTONEePIRITgTRACKfGRAINfCAVEeSTANDfBAMBOOgRICEeSILKeJARdNETdSHEEP",
    "fFEATHERhOLDdANDdPLOWeEARdBRUSHfMEATdINISTERiSELFeARRIVEgMORTARgTONGUEgOPPOSEgBOATeSTOPPINGiCOLORfGRASSfTIGER",
    "fINSECTgBLOODfWALK ENCLOSUREoCLOTHEShWESTeSEEdHORNeSPEECHgVALLEYgBEANePIGdBADGERgSHELLfREDcUNdFOOTeBODYeCART",
    "eBITTERgMORNINGhWALKeCITYeWINEeDISTINGUISHlVILLAGEhGOLDeLONGeGATEeMOUNDfSLAVEeHORT TAILED BIRDrRAINeBLUEeWRONG",
    "fFACEeLEATHERhTANNED LEATHERoLEEKeSOUNDfLEAFeWINDeFLYdEATdHEADeFRAGRANTiHORSEfBONEeTALLeHAIReFIGHT",
    "fSACRIFICIAL WINEqCAULDRONiGHOSTfFISHeBIRDeSALTeDEEReWHEATfHEMPeYELLOWgMILLETgBLACKfEMBROIDERYkFROGeTRIPODgDRUM",
    "eRATdNOSEeEVENeTOOTHfDRAGONgTURTLEgFLUTE;2ff0:uIDEOGRAPHIC DESCRIPTION CHARACTER = TO )nABOVE TO?o= TO MIDDLE*)",
    "yABOVE TO MIDDLE*BELOWzFULL SURROUNDnSURROUND FROM+fBELOWf=eUPPER =e)lLOWER =yOVERLAID;3000:beSPACEfCOMMA",
    "fFULL STOP;3005:jITERATION|oCLOSING|mNUMBER ZERO;301d:xREVERSED > PRIME QUOTATION|;3021:bkHANGZHOU NUMERAL ONE",
    "dTWOcHREEfFOURdIVEeSIXcEVENfEIGHTfNINEvIDEOGRAPHIC LEVEL TONE|pRISING TONE|qDEPARTING TONE|tENTERING TONE|",
    "beHANGUL SINGLE DOT TONE|u> DOT TONE|;3036:bbCIRCLED POSTAL|tIDEOGRAPHIC TELEGRAPH LINE FEED SEPARATOR~",
    "bwHANGZHOU NUMERAL TENcWENTYfHIRTY;303e:xIDEOGRAPHIC VARIATION INDICATORtHALF FILL SPACE;3041:bbHIRAGANA!% AhA",
    "b% IhIb% UhUb% EhEb% OhObKAcGAcKIcGIcKUcGUcKEcGEcKOcGOcSAcZAcSIcZIcSUcZUcSEcZEcSOcZOcTAcDAcTIcDIc% TUiTUcDUcTE",
    "cDEcTOcDOcNAbIbUbEbOcHAcBAcPAcHIcBIcPIcHUcBUcPUcHEcBEcPEcHOcBOcPOcMAbIbUbEbOc% YAiYAc% YUiYUc% YOiYOcRAbIbUbEbO",
    "c% WAiWAbIbEbOcNbVUc% KAbE;309d:pITERATION|oVOICED ITERATION|vDIGRAPH YORI;30a1:vKATAKANA!% AhAb% IhIb% UhUb% E",
    "hEb% OhObKAcGAcKIcGIcKUcGUcKEcGEcKOcGOcSAcZAcSIcZIcSUcZUcSEcZEcSOcZOcTAcDAcTIcDIc% TUiTUcDUcTEcDEcTOcDOcNAbIbU",
    "bEbOcHAcBAcPAcHIcBIcPIcHUcBUcPUcHEcBEcPEcHOcBOcPOcMAbIbUbEbOc% YAiYAc% YUiYUc% YOiYOcRAbIbUbEbOc% WAiWAbIbEbOcN",
    "bVUc% KAbEiVAbIbEbOjMIDDLE DOT;30fd:kITERATION|oVOICED ITERATION|vDIGRAPH KOTO;3105:vBOPOMOFO!BbPbMbFbDbTbNbLbG",
    "bKbHbJbQbXbZHcCHcSHcRbZbCbSbAbObEaHcAIcEIcAUcOUcANcENcANGdENGcRcIbUbIUcVbNGcGNcIHcO#DOT+qNN;3131:sHANGUL!KIYEOK",
    "gSSANGKIYEOKlKIYEOK-SIOSlNIEUNa-CIEUCfHIEUHlTIKEUTgSSANGTIKEUTlRIEULa-KIYEOKgMIEUMfPIEUPfSIOSeTHIEUTHhPHIEUPH",
    "hHIEUHlMIEUMfPIEUPfSSANGPIEUPkPIEUP-SIOSkSIOSdSANGSIOSjIEUNGfCIEUCfSSANGCIEUCkCHIEUCHhKHIEUKHhTHIEUTHhPHIEUPH",
    "hHIEUHfAaEcYAaEdEOcEbYEOcEcObWAaEdOEcYOcUbWEOcEbIcYUcEUcYIcIiFILLERgLETTER SSANGNIEUNkNIEUN-TIKEUTgSIOSePANSIOS",
    "nRIEUL-KIYEOK-SIOSlTIKEUTgPIEUP-SIOSjANSIOShYEORINHIEUHrMIEUM-PIEUPfSIOSePANSIOSnKAPYEOUNMIEUMnPIEUP-KIYEOK",
    "gTIKEUTgSIOS-KIYEOKgTIKEUTlCIEUCfTHIEUTHnKAPYEOUNPIEUPfSSANGPIEUPsSIOS-KIYEOKgNIEUNfTIKEUTgPIEUPfCIEUCkPANSIOS",
    "hSSANGIEUNGkYESIEUNGa-SIOSePANSIOSqKAPYEOUNPHIEUPHpSSANGHIEUHkYEORINHIEUHkO-YAaEdIdU-YEOcEcIeARAEAaE",
    "3190:uIDEOGRAPHIC ANNOTATION LINKING|mREVERSE|mONE|iTWO|hHREE|kFOUR|jTOP|iMIDDLE|lBOTTOM|lFIRST|kSECOND|lTHIRD|",
    "kFOURTH|lHEAVEN|lEARTH|kMAN|bfBOPOMOFO!BUcZIcJIcGUcEEbNNdOObNNdIRcANNdINNdUNNdIMcNGGdAINNdUNNdMcOMbNGdINNNl^!P",
    "bTbKbHoLETTER GHcLHcZYj^!GoLETTER GWcKWcOEcAHsCJK STROKE TbWGcXGcBXGdSWcHZZbGcPbZWGeSZWGeHZTbZPdPWGdZWbZZeNbHbS",
    "bPbSPcDbHZbGcSZbWZcTbGcPDbZcTNcSZZcWGdHXWGdZZZGfPGcQ;31f0:mKATAKANA!% KUcSIbUcTOcNUcHAbIbUbEbOcMUcRAbIbUbEbO",
    "yPARENTHESIZED HANGUL KIYEOKgNIEUNfTIKEUTgRIEULfMIEUMfPIEUPfSIOSeIEUNGfCIEUCeHIEUCHhKHIEUKHhTHIEUTHhPHIEUPH",
    "hHIEUHfKIYEOK AiNIEUN AhTIKEUT AiRIEUL AhMIEUM AhPIEUP AhSIOS AgIEUNG AhCIEUC AgHIEUCH AjKHIEUKH AjTHIEUTH A",
    "jPHIEUPH AjHIEUH AhCIEUC UoKOREAN CHARACTER OJEONe HU;3220:vIDEOGRAPH ONEdTWOcHREEfFOURdIVEeSIXcEVENfEIGHTfNINE",
    "eTENdMOONeFIREeWATEReOODeMETALfEARTHfSUNcTOCKfHAVEeSOCIETYhNAMEeSPECIALhFINANCIALjCONGRATULATIONoLABOR",
    "fREPRESENTjCALLeSTUDYeUPERVISEjENTERPRISEkRESOURCEiALLIANCEiFESTIVALiRESTeSELFeREACH",
    "bdCIRCLED IDEOGRAPH QUESTIONiKINDERGARTENmSCHOOLgKOTOoNUMBER TEN ON BLACK SQUAREsWENTY ON BLACK SQUARE",
    "vHIRTY ON BLACK SQUAREwFORTY ON BLACK SQUAREuIFTY ON BLACK SQUAREvSIXTY ON BLACK SQUAREuEVENTY ON BLACK SQUARE",
    "xEIGHTY ON BLACK SQUARE;3251:wTWENTY ONEdTWOcHREEfFOURdIVEeSIXcEVENfEIGHTfNINEkHIRTYa ONEdTWOcHREEfFOURdIVE",
    "sHANGUL KIYEOKgNIEUNfTIKEUTgRIEULfMIEUMfPIEUPfSIOSeIEUNGfCIEUCeHIEUCHhKHIEUKHhTHIEUTHhPHIEUPHhHIEUHfKIYEOK A",
    "iNIEUN AhTIKEUT AiRIEUL AhMIEUM AhPIEUP AhSIOS AgIEUNG AhCIEUC AgHIEUCH AjKHIEUKH AjTHIEUTH AjPHIEUPH AjHIEUH A",
    "oKOREAN CHARACTER CHAMKOgJUEUIwHANGUL IEUNG U;3280:oIDEOGRAPH ONEdTWOcHREEfFOURdIVEeSIXcEVENfEIGHTfNINEeTEN",
    "dMOONeFIREeWATEReOODeMETALfEARTHfSUNcTOCKfHAVEeSOCIETYhNAMEeSPECIALhFINANCIALjCONGRATULATIONoLABORfSECRETgMALE",
    "eFEMALEgSUITABLEiEXCELLENTjPRINTfATTENTIONjITEMeRESTeCOPYcRRECThHIGHeCENTREgLOWcEFTe)fMEDICINEiRELIGIONiSTUDY",
    "eUPERVISEjENTERPRISEkRESOURCEiALLIANCEiNIGHTpNUMBER THIRTY SIXcEVENfEIGHTfNINElFORTYa ONEdTWOcHREEfFOURdIVEeSIX",
    "cEVENfEIGHTfNINEjIFTYuIDEOGRAPHIC TELEGRAPH~ FOR JANUARYhFEBRUARYiMARCHfAPRILfMAYdJUNEcLYeAUGUSTgSEPTEMBER",
    "jOCTOBERhNOVEMBERiDECEMBERbpSQUARE HGcERGcV;32d0:jCIRCLED KATAKANA AbIbUbEbObKAbIbUbEbOcSAbIbUbEbOcTAbIbUbEbO",
    "cNAbIbUbEbOcHAbIbUbEbOcMAbIbUbEbOcYAbUbOcRAbIbUbEbOcWAbIbEbOtSQUARE ERA NAME REIWAoAPAATOfRUHUAfNPEAeARUeININGU",
    "eTIeUONdESUKUUDOhEKAAfONSUdOMUeKAIRIdRATTOeORIIhGARONdNMAeIGAcNIIfKYURIIgGIRUDAAhKIROaGURAMUgMEETORUhWATTO",
    "jGURAMUaTONjKURUZEIROgOONEgEESUeORUNAeOPOfSAIKURUfNTIIMUhIRINGUgENTIbOfDAASUeESIdORUeTONdNANOdOTTOfHAITU",
    "fPAASENTOfTUfBAARERUhPIASUTORUhKURUdOeBIRUeHUARADDOgIITOgBUSSYERUiHURANeEKUTAARUjPESOcNIHIgHERUTUgPENSUdEZI",
    "fBEETAfPOINTOgBORUTOgHONdPONDOfHOORUcNeMAIKUROeRUdHHAdRUKUeNSYONgIKURONfRIaBAARUiEGAaTONfETORUhYAADOcRUeUAN",
    "eRITTORUfRAdUPIIdUBURUgEMUcNTOGENiWATTOmIDEOGRAPHIC TELEGRAPH~ FOR HOUR ZEROeONEdTWOcHREEfFOURdIVEeSIXcEVEN",
    "fEIGHTfNINEeTENdELEVENgTWELVEfHIRTEENiFOURTEENhIFTEENhSIXTEENgEVENTEENjEIGHTEENiNINETEENiTWENTYa-ONEdTWOcHREE",
    "fFOURbxSQUARE HPAdDAcAUcBARdOVcPCcDMa SQUAREDhCUBEDiIUcERA NAME HEISEIgSYOUWAgTAISYOUhMEIZIoCORPORATIONlPA AMPS",
    "hNAcMU AdAcKAbBcMBcGBcCALdKCALePFcNFcMU FbGdGcKGcHZcKHZdMHZdGHZdTHZdMU LdLcDLcKLcFMcNMcMU MdMcCMcKMcMM SQUARED",
    "kCM SQUAREDkM SQUAREDjKM SQUAREDkMM CUBEDiCM CUBEDiM CUBEDhKM CUBEDiM OVER Sa SQUAREDqPAcKPAdMPAdGPAdRAD",
    "a OVER Sa SQUAREDsPScNScMU SdScPVcNVcMU VdVcKVcMV MEGAhPWcNWcMU WdWcKWcMW MEGAhK OHMfM OHMfAMcBQcCCbDb OVER KG",
    "iOcDBcGYcHAbPcINcKKbM $jTcLMbNbOGcXcMB %hILcOLdPHbMbPMcRcSRbVcWBcV OVER MiA OVER M",
    "pIDEOGRAPHIC TELEGRAPH~ FOR DAY ONEdTWOcHREEfFOURdIVEeSIXcEVENfEIGHTfNINEeTENdELEVENgTWELVEfHIRTEENiFOURTEEN",
    "hIFTEENhSIXTEENgEVENTEENjEIGHTEENiNINETEENiTWENTYa-ONEdTWOcHREEfFOURdIVEeSIXcEVENfEIGHTfNINEkHIRTYa-ONE",
    "bvSQUARE GAL;a674:kCOMBINING CYRILLIC!UKRAINIAN IEmIbYIcUbHARD.jYERUeSOFT.jOMEGA;a69e:fEFcIOTIFIED E",
    "a7f7:bkLATIN EPIGRAPHIC!SIDEWAYS I;a7fb:kREVERSED FbPkINVERTED Mj LONGAhARCHAIC M;fe46:bhWHITE SESAME DOT",
    "10b3c:qLARGE TWO DOTS OVER ONE DOT PUNCTUATIONbhONE DOT OVER TWO DOTS PUNCTUATION",
    "bhTWO RINGS OVER ONE RING PUNCTUATIONbjONE RING OVER TWO RINGS PUNCTUATION;1b000:bpKATAKANA!ARCHAIC E",
    "zHIRAGANA!ARCHAIC YE;1b11f:cWUbaKATAKANA!ARCHAIC YIbEcWU;1b150:baHIRAGANA!% WIbEbO;1b164:yKATAKANA!% WIbEbOcN",
    "1d000:xBYZANTINE MUSICAL~ PSILIfDASEIAgPERISPOMENIlOXEIA EKFONITIKONlDIPLIlVAREIA EKFONITIKONlDIPLImKATHISTI",
    "iSYRMATIKIjPARAKLITIKIlYPOKRISISa DIPLIpKREMASTIiAPESO EKFONITIKONrEXO EKFONITIKONpTELEIAgKENTIMATAjAPOSTROFOS",
    "a DIPLIqSYNEVMAhTHITAfOLIGON ARCHAIONpGORGON ARCHAIONpPSILONgCHAMILONiVATHYfISON ARCHAIONnKENTIMA ARCHAION",
    "jTA ARCHAIONsSAXIMATAiPARICHONiSTAVROS APODEXIAqOXEIAI ARCHAIONpVAREIAI ARCHAIONqAPODERMA ARCHAIONoTHEMAiKLASMA",
    "gREVMAfPIASMA ARCHAIONpTINAGMAhANATRICHISMAmSEISMAfYNAGMA ARCHAIONiMETA STAVROUuOYRANISMA ARCHAIONsTHEMAfLEMOI",
    "fDYOdTRIAdESSERAhKRATIMATAjAPESO EXO NEOnFTHORA ARCHAIONpIMIFTHORAjTROMIKON ARCHAIONrKATAVA TROMIKONpPELASTON",
    "hSIFISTONjKONTEVMAiCHOREVMA ARCHAIONrRAPISMAhPARAKALESMA ARCHAIONpLITIKI ARCHAIONuICHADINhNANAePETASMA",
    "hKONTEVMA ALLOnTROMIKON ALLOnSTRAGGISMATAmGRONTHISMATAmISON NEOiOLIGON NEOjXEIA NEOjPETASTIhKOUFISMA",
    "iPETASTOKOUFISMApKRATIMOKOUFISMApPELASTON NEOmKENTIMATA NEO ANOk NEO ANOpYPSILIgAPOSTROFOS NEOfI SYNDESMOS NEO",
    "yYPORROIhKRATIMOYPORROONpELAFRONhCHAMILIhMIKRON ISONlVAREIA NEOkPIASMA NEOjSIFISTON NEOnOMALONgANTIKENOMA",
    "kLYGISMAhPARAKLITIKI NEOkALESMA NEOpETERON PARAKALESMAsKYLISMAhANTIKENOKYLISMApTROMIKON NEOmEKSTREPTON",
    "kSYNAGMA NEOjRMAfCHOREVMA NEOmEPEGERMAiSEISMA NEOkXIRON KLASMAmTROMIKOPSIFISTONqPSIFISTOLYGISMApTROMIKOLYGISMA",
    "hPARAKALESMAsPSIFISTOPARAKALESMAtTROMIKOSYNAGMAoPSIFISTOSYNAGMApGORGOSYNTHETONoARGOSYNTHETON",
    "nETERON ARGOSYNTHETONuOYRANISMA NEOnTHEMATISMOS ESOcXOk APLOUNjS KAI APOTHESqKATAVASMAjENDOFONONjYFEN KATOeANO",
    "iSTAVROShKLASMA ANOkDIPLI ARCHAIONoKRATIMA ARCHAIONhLLOeNEOlAPODERMA NEOkLIeDIPLIfTRIPLIfETRAPLIiKORONIS",
    "hLEIMMA ENOS CHRONOUmDYO CHRONONlTRION CHRONONmESSARON CHRONONqIMISEOS CHRONOUwGORGON NEO ANO",
    "hPARESTIGMENON ARISTERAiDEXIAbaDIGORGONa PARESTIGMENON ARISTERA KATOeANOmDEXIAbcTRIGORGONjARGONfIMIDIARGON",
    "kDIARGONhAGOGI POLI ARGIjARGOTERIfIeMETRIAeSIeGORGIbOTERIjPOLI GORGIqMARTYRIA PROTOS ICHOSmALLI PROTOS ICHOS",
    "rDEYTEROS ICHOSoALLI DEYTEROS ICHOStTRITOS ICHOSjFONIASiETARTOS ICHOSfLEGETOS ICHOSwLEGETOS ICHOSnPLAGIOS ICHOS",
    "wISAKIA TELOUS ICHIMATOSxAPOSTROFOI TELOUS ICHIMATOSbbFANEROSIS TETRAFONIASlMONOFONIASkDIFONIAS",
    "sMARTYRIA VARYS ICHOSlPROTOVARYS ICHOSpLAGIOS TETARTOS ICHOSbfGORTHMIKON N APLOUNgDIPLOUN",
    "uENARXIS KAI FTHORA VOUwIMIFONONeTHORONkFTHORA ARCHAION DEYTEROU ICHOUxDIATONIKI PAcNANAoNAOS ICHOS",
    "kDIATONIKI DImSKLIRON DIATONON DItDIATONIKI KEcZOcNI KATOeANOqMALAKON CHROMA DIFONIASiMONOFONIAS",
    "bfHTORA SKLIRON CHROMA VASISbaTHORA SKLIRON CHROMA SYNAFIvNENANOnCHROA ZYGOSfKLITONgSPATHI",
    "mFTHORA I YFESIS TETARTIMORIONwENARMONIOS ANTIFONIAbbYFESIS TRITIMORIONsDIESIS TRITIMORIONkETARTIMORION",
    "nAPLI DYO DODEKATArMONOGRAMMOS TESSERA DODEKATAbcDIGRAMMOS EX DODEKATAvTRIGRAMMOS OKTO DODEKATA",
    "bfYFESIS APLI DYO DODEKATArMONOGRAMMOS TESSERA DODEKATAbcDIGRAMMOS EX DODEKATAvTRIGRAMMOS OKTO DODEKATA",
    "bfGENIKI DIESISgYFESISnDIASTOLI APLI MIKRIeEGALIlDIPLIfTHESEOSqSIMANSIS THESEOSa DISIMOUhTRISIMOUhETRASIMOU",
    "sARSEOSa DISIMOUhTRISIMOUhETRASIMOUbaDIGRAMMA GGjFTOGGOS OUmSTIGMAgARKTIKO PAcVOUdGAcDIcKEcZOcNI",
    "kKENTIMATA NEO MESOl NEO MESOjTA NEO KATOl NEO KATOpLASMA KATOlGORGON NEO KATO;1d100:boMUSICAL~ SINGLE BARLINE",
    "o> BARLINEo^ BARLINEnREVERSE ^ BARLINEvDASHED BARLINEoSHORT BARLINEn= REPEAT.q) REPEAT.qEPEAT DOTSlDAL SEGNO",
    "h CAPOhSEGNOfCODAeREPEATED FIGURE-1b2b3rFERMATAa?nBREATH|lCAESURAhBRACEbKEThONE-LINE STAFFoTWO-LINE STAFF",
    "nHREE-LINE STAFFqFOUR-LINE STAFFoIVE-LINE STAFFpSIX-LINE STAFFkSTRING FRETBOARDuFOUR-STRING FRETBOARDvG CLEF",
    "a OTTAVA ALTAeBASSAtC CLEFgF CLEFa OTTAVA ALTAeBASSAtDRUM CLEF-1b2;1d129:lMULTIPLE MEASURE RESTv> SHARPfFLAT",
    "lFLAT UPcDOWNjNATURAL UPcDOWNmSHARP UPcDOWNkQUARTER TONE SHARPfFLATrCOMMON TIMEkUT TIMEiOTTAVA ALTAeBASSA",
    "mQUINDICESIMA ALTAeBASSAsMULTI RESTkWHOLE RESTkHALF RESTjQUARTER RESTmEIGHTH RESTlSIXTEENTH REST",
    "oTHIRTY-SECOND RESTsSIXTY-FOURTH RESTrONE HUNDRED TWENTY-EIGHTH RESTbeX NOTEHEADkPLUS NOTEHEAD",
    "nCIRCLE X NOTEHEADrSQUARE NOTEHEAD WHITEfBLACKvTRIANGLE NOTEHEAD UP WHITEfBLACKi= WHITEfBLACKk) WHITEfBLACK",
    "lDOWN WHITEfBLACKkUP ) WHITEfBLACKbgMOON NOTEHEAD WHITEfBLACKtTRIANGLE-ROUND NOTEHEAD DOWN WHITEfBLACK",
    "biPARENTHESIS NOTEHEADuVOID NOTEHEADnNOTEHEAD BLACKnULL NOTEHEADnCLUSTER NOTEHEAD WHITEfBLACKwBREVEfWHOLE NOTE",
    "kHALF NOTEjQUARTER NOTEmEIGHTH NOTElSIXTEENTH NOTEoTHIRTY-SECOND NOTEsSIXTY-FOURTH NOTE",
    "rONE HUNDRED TWENTY-EIGHTH NOTEbeCOMBINING STEMdPRECHGESANG STEMrTREMOLO-1b2b3tFINGERED TREMOLO-1b2b3",
    "sCOMBINING AUGMENTATION DOTqFLAG-1b2b3b4b5qBEGIN BEAMkEND BEAMiBEGIN TIEjEND TIEhBEGIN SLURkEND SLUR",
    "iBEGIN PHRASEmEND PHRASEkCOMBINING ACCENTgSTACCATOiTENUTOgSTACCATISSIMOnMARCATOa-STACCATOqACCENT-STACCATOpLOURE",
    "pARPEGGIATO UPcDOWNpCOMBINING DOITeRIPdFLIPeSMEARfBENDe> TONGUEnTRIPLE TONGUExRINFORZANDOlSUBITOgZbPIANOfMEZZO",
    "fFORTEfCRESCENDOjDECRESCENDOlGRACE NOTE SLASHfNO SLASHtTRbURNeINVERTED TURNnTURN SLASHfUPhORNAMENT STROKE-1b2b3",
    "b4b5b6b7b8b9b10b1sHAUPTSTIMMElNEBENSTIMMElEND OF STIMMEnDEGREE SLASHmCOMBINING DOWN BOWiUP BOWgHARMONIC",
    "iSNAP PIZZICATOyPEDAL|eUP|nHALF PEDAL|pGLISSANDO UPcDOWNoWITH FINGERNAILSqDAMPa ALLiMAXIMAgLONGAfBREVIS",
    "gSEMIBREVIS WHITEfBLACKqMINIMAa BLACKmSEMIMINIMA WHITEfBLACKqFUSA WHITEfBLACKkLONGA PERFECTA REST",
    "nIMPERFECTA RESTvBREVIS RESTlSEMIBREVIS RESTpMINIMA RESTlSEMIMINIMA REST",
    "pTEMPUS PERFECTUM CUM PROLATIONE PERFECTAiIMPERFECTAkPERFECTA DIMINUTION-1buIMPERFECTUM CUM PROLATIONE PERFECTA",
    "iIMPERFECTAa DIMINUTION-1b2b3cfCROIXfGREGORIAN C CLEFgF CLEFqSQUARE BiVIRGAfPODATUShCLIVISgSCANDICUSjCLIMACUS",
    "iTORCULUSiPORRECTUSa FLEXUSqSCANDICUS FLEXUSqTORCULUS RESUPINUSsPES SUBPUNCTISoKIEVAN C CLEFgEND OF PIECE",
    "m^ NOTEkRECITATIVE|pWHOLE NOTEkHALF NOTEjQUARTER NOTE STEM DOWNeUPuEIGHTH NOTE STEM DOWNeUPtFLAT.qSORIeKORON",
    "1d200:uGREEK VOCAL NOTATION~-1b2b3b4b5b6b7b8b9b10b1b2b3b4b5b6b7b8b9c20b1b2b3b4c50b1b2b3b4",
    "yINSTRUMENTAL NOTATION~-1b2b4b5b7b8b11b2b3b4b7b8b9c23b4b5b6b7b9c30b2b6b7b8b9c40b2b3b5b7b8b9c50b1b2b3b4",
    "1d2e0:blMAYAN NUMERAL ZEROeONEdTWOcHREEfFOURdIVEeSIXcEVENfEIGHTfNINEeTENdELEVENgTWELVEfHIRTEENiFOURTEENhIFTEEN",
    "hSIXTEENgEVENTEENjEIGHTEENiNINETEEN;1d306:wTETRAGRAM FOR CENTREgFULL CIRCLElMIREDfBARRIERhKEEPING %nCONTRARIETY",
    "lASCENTgOPPOSITIONkBRANCHING OUTnDEFECTIVENESS OR DISTORTIONbaIVERGENCEkYOUTHFULNESSmINCREASEiPENETRATIONlREACH",
    "fCONTACThHOLDING BACKmWAITINGhFOLLOWINGjADVANCEhRELEASEfSISTANCEkEASEeJOYdCONTENTIONkENDEAVOURjDUTIESgCHANGE",
    "gDECISIVENESSmBOLD RESOLUTIONpPACKINGhLEGIONgCLOSENESSjKINSHIPhGATHERINGjSTRENGTHiPURITYgFULLNESSiRESIDENCE",
    "jLAW OR MODELmRESPONSEiGOING TO MEETnENCOUNTERSkSTOVEfGREATNESSjENLARGEMENTlPATTERNhRITUALgFLIGHT",
    "gVASTNESS OR WASTINGtCONSTANCYjMEASUREhETERNITYiUNITYfDIMINISHMENTmCLOSED MOUTHmGUARDEDNESSkATHERING INmMASSING",
    "hACCUMULATIONmEMBELLISHMENTnDOUBTfWATCHfSINKINGhINNERfDEPARTUREiARKENINGiIMMINGhEXHAUSTIONkSEVERANCEiTOPPAGE",
    "iHARDNESSiCOMPLETIONjLOSUREhFAILUREhAGGRAVATIONlCOMPLIANCEkON THE VERGEmDIFFICULTIESmLABOURINGjFOSTERING",
    "1d360:xCOUNTING ROD UNIT DIGIT ONEdTWOcHREEfFOURdIVEeSIXcEVENfEIGHTfNINEpTENS DIGIT ONEdTWOcHREEfFOURdIVEeSIX",
    "cEVENfEIGHTfNINEbcIDEOGRAPHIC TALLY| ONEdTWOcHREEfFOURdIVE;1d400:bbMATHEMATICAL BOLD $ AbBbCbDbEbFbGbHbIbJbKbL",
    "bMbNbObPbQbRbSbTbUbVbWbXbYbZj% AbBbCbDbEbFbGbHbIbJbKbLbMbNbObPbQbRbSbTbUbVbWbXbYbZmITALIC $ AbBbCbDbEbFbGbHbIbJ",
    "bKbLbMbNbObPbQbRbSbTbUbVbWbXbYbZj% AbBbCbDbEbFbG;1d456:bIbJbKbLbMbNbObPbQbRbSbTbUbVbWbXbYbZoBOLD ITALIC $ AbBbC",
    "bDbEbFbGbHbIbJbKbLbMbNbObPbQbRbSbTbUbVbWbXbYbZj% AbBbCbDbEbFbGbHbIbJbKbLbMbNbObPbQbRbSbTbUbVbWbXbYbZtSCRIPT $ A",
    "1d49e:bCbD;1d4a2:bG;1d4a5:bJbK;1d4a9:bNbObPbQ;1d4ae:bSbTbUbVbWbXbYbZj% AbBbCbD;1d4bb:bF;1d4bd:bHbIbJbKbLbMbN",
    "1d4c5:bPbQbRbSbTbUbVbWbXbYbZoBOLD SCRIPT $ AbBbCbDbEbFbGbHbIbJbKbLbMbNbObPbQbRbSbTbUbVbWbXbYbZj% AbBbCbDbEbFbG",
    "bHbIbJbKbLbMbNbObPbQbRbSbTbUbVbWbXbYbZtFRAKTUR $ AbB;1d507:bDbEbFbG;1d50d:bJbKbLbMbNbObPbQ;1d516:bSbTbUbVbWbXbY",
    "1d51e:j% AbBbCbDbEbFbGbHbIbJbKbLbMbNbObPbQbRbSbTbUbVbWbXbYbZp>-STRUCK $ AbB;1d53b:bDbEbFbG;1d540:bIbJbKbLbM",
    "1d546:bO;1d54a:bSbTbUbVbWbXbY;1d552:j% AbBbCbDbEbFbGbHbIbJbKbLbMbNbObPbQbRbSbTbUbVbWbXbYbZvBOLD FRAKTUR $ AbBbC",
    "bDbEbFbGbHbIbJbKbLbMbNbObPbQbRbSbTbUbVbWbXbYbZj% AbBbCbDbEbFbGbHbIbJbKbLbMbNbObPbQbRbSbTbUbVbWbXbYbZ",
    "uSANS-SERIF $ AbBbCbDbEbFbGbHbIbJbKbLbMbNbObPbQbRbSbTbUbVbWbXbYbZj% AbBbCbDbEbFbGbHbIbJbKbLbMbNbObPbQbRbSbTbUbV",
    "bWbXbYbZhBOLD $ AbBbCbDbEbFbGbHbIbJbKbLbMbNbObPbQbRbSbTbUbVbWbXbYbZj% AbBbCbDbEbFbGbHbIbJbKbLbMbNbObPbQbRbSbTbU",
    "bVbWbXbYbZmITALIC $ AbBbCbDbEbFbGbHbIbJbKbLbMbNbObPbQbRbSbTbUbVbWbXbYbZj% AbBbCbDbEbFbGbHbIbJbKbLbMbNbObPbQbRbS",
    "bTbUbVbWbXbYbZoBOLD ITALIC $ AbBbCbDbEbFbGbHbIbJbKbLbMbNbObPbQbRbSbTbUbVbWbXbYbZj% AbBbCbDbEbFbGbHbIbJbKbLbMbN",
    "bObPbQbRbSbTbUbVbWbXbYbZbeMONOSPACE $ AbBbCbDbEbFbGbHbIbJbKbLbMbNbObPbQbRbSbTbUbVbWbXbYbZj% AbBbCbDbEbFbGbHbIbJ",
    "bKbLbMbNbObPbQbRbSbTbUbVbWbXbYbZrITALIC % DOTLESS IbJ;1d6a8:wBOLD $ ALPHAfBETAeGAMMAfDELTAfEPSILONhZETAeETA",
    "dTHETAfIOTAeKAPPAfLAMDAfMUcNUcXIcOMICRONhPIcRHOdTHETA~mSIGMAfTAUdUPSILONhPHIdCHIdPSIdOMEGAnNABLAf% ALPHAfBETA",
    "eGAMMAfDELTAfEPSILONhZETAeETAdTHETAfIOTAeKAPPAfLAMDAfMUcNUcXIcOMICRONhPIcRHOd^ SIGMAlSIGMAfTAUdUPSILONhPHIdCHI",
    "dPSIdOMEGAlPARTIAL DIFFERENTIALuEPSILON~oTHETA~mKAPPA~mPHI~kRHO~kPI~oITALIC $ ALPHAfBETAeGAMMAfDELTAfEPSILON",
    "hZETAeETAdTHETAfIOTAeKAPPAfLAMDAfMUcNUcXIcOMICRONhPIcRHOdTHETA~mSIGMAfTAUdUPSILONhPHIdCHIdPSIdOMEGAnNABLA",
    "f% ALPHAfBETAeGAMMAfDELTAfEPSILONhZETAeETAdTHETAfIOTAeKAPPAfLAMDAfMUcNUcXIcOMICRONhPIcRHOd^ SIGMAlSIGMAfTAU",
    "dUPSILONhPHIdCHIdPSIdOMEGAlPARTIAL DIFFERENTIALuEPSILON~oTHETA~mKAPPA~mPHI~kRHO~kPI~qBOLD ITALIC $ ALPHAfBETA",
    "eGAMMAfDELTAfEPSILONhZETAeETAdTHETAfIOTAeKAPPAfLAMDAfMUcNUcXIcOMICRONhPIcRHOdTHETA~mSIGMAfTAUdUPSILONhPHIdCHI",
    "dPSIdOMEGAnNABLAf% ALPHAfBETAeGAMMAfDELTAfEPSILONhZETAeETAdTHETAfIOTAeKAPPAfLAMDAfMUcNUcXIcOMICRONhPIcRHO",
    "d^ SIGMAlSIGMAfTAUdUPSILONhPHIdCHIdPSIdOMEGAlPARTIAL DIFFERENTIALuEPSILON~oTHETA~mKAPPA~mPHI~kRHO~kPI~",
    "vSANS-SERIF BOLD $ ALPHAfBETAeGAMMAfDELTAfEPSILONhZETAeETAdTHETAfIOTAeKAPPAfLAMDAfMUcNUcXIcOMICRONhPIcRHO",
    "dTHETA~mSIGMAfTAUdUPSILONhPHIdCHIdPSIdOMEGAnNABLAf% ALPHAfBETAeGAMMAfDELTAfEPSILONhZETAeETAdTHETAfIOTAeKAPPA",
    "fLAMDAfMUcNUcXIcOMICRONhPIcRHOd^ SIGMAlSIGMAfTAUdUPSILONhPHIdCHIdPSIdOMEGAlPARTIAL DIFFERENTIALuEPSILON~oTHETA~",
    "mKAPPA~mPHI~kRHO~kPI~jITALIC $ ALPHAfBETAeGAMMAfDELTAfEPSILONhZETAeETAdTHETAfIOTAeKAPPAfLAMDAfMUcNUcXIcOMICRON",
    "hPIcRHOdTHETA~mSIGMAfTAUdUPSILONhPHIdCHIdPSIdOMEGAnNABLAf% ALPHAfBETAeGAMMAfDELTAfEPSILONhZETAeETAdTHETAfIOTA",
    "eKAPPAfLAMDAfMUcNUcXIcOMICRONhPIcRHOd^ SIGMAlSIGMAfTAUdUPSILONhPHIdCHIdPSIdOMEGAlPARTIAL DIFFERENTIALuEPSILON~",
    "oTHETA~mKAPPA~mPHI~kRHO~kPI~bgBOLD $ DIGAMMAp% DIGAMMA;1d7ce:nDIGIT ZEROeONEdTWOcHREEfFOURdIVEeSIXcEVENfEIGHT",
    "fNINEp>-STRUCK DIGIT ZEROeONEdTWOcHREEfFOURdIVEeSIXcEVENfEIGHTfNINEySANS-SERIF DIGIT ZEROeONEdTWOcHREEfFOURdIVE",
    "eSIXcEVENfEIGHTfNINEkBOLD DIGIT ZEROeONEdTWOcHREEfFOURdIVEeSIXcEVENfEIGHTfNINEbaMONOSPACE DIGIT ZEROeONEdTWO",
    "cHREEfFOURdIVEeSIXcEVENfEIGHTfNINEbhSIGNWRITING HAND-FIST INDEXkCIRCLE INDEXlUP INDEXjOVAL INDEXkHINGE INDEX",
    "lANGLE INDEXlFIST INDEX BENTpCIRCLE INDEX BENTrFIST THUMB UNDER INDEX BENTwINDEX RAISED KNUCKLEoCUPPEDgHINGED",
    "a LOWvCIRCLE INDEX HINGEsFIST INDEX MIDDLErCIRCLE INDEX MIDDLEtFIST INDEX MIDDLE BENTeRAISED KNUCKLESpHINGED",
    "nUP MIDDLE HINGEDqHINGED MIDDLE UPqMIDDLE CONJOINEDa INDEX BENTkMIDDLE BENTlCUPPEDgHINGEDpROSSED",
    "zCIRCLE INDEX MIDDLE CROSSEDbbFIST MIDDLE BENT OVER INDEXwINDEX BENT OVER MIDDLEqMIDDLE THUMB",
    "xCIRCLE INDEX MIDDLE THUMBzFIST INDEX MIDDLE STRAIGHT THUMB BENTtBENT THUMB STRAIGHTtTHUMB BENT",
    "kHINGED SPREAD THUMB SIDEbfUP MIDDLE HINGED THUMB SIDEeCONJOINEDbgHINGED MIDDLE UP THUMB SIDE",
    "bbMIDDLE UP SPREAD THUMB FORWARDxTHUMB CUPPEDfIRCLEDhHOOKEDfINGEDzTHUMB BETWEEN INDEX MIDDLE STRAIGHT",
    "bjINDEX MIDDLE CONJOINED THUMB SIDEa CONJOINEDjBENTbmMIDDLE THUMB HOOKED INDEX UPbcINDEX THUMB HOOKED MIDDLE UP",
    "wMIDDLE CONJOINED HINGED THUMB SIDEbaROSSED THUMB SIDErONJOINED THUMB FORWARDnCUPPED THUMB FORWARD",
    "brMIDDLE THUMB CUPPED INDEX UPbcINDEX THUMB CUPPED MIDDLE UPbcMIDDLE THUMB CIRCLED INDEX UPcHINGED",
    "bhINDEX THUMB ANGLED OUT MIDDLE UPnIN MIDDLE UPtCIRCLED MIDDLE UPxMIDDLE THUMB CONJOINED HINGEDqANGLED OUTfD",
    "zMIDDLE THUMB ANGLED OUT INDEX UPcCROSSEDrINDEX UPbcINDEX THUMB HOOKED MIDDLE HINGEDbkLAT FOUR FINGERSa BENT",
    "eHINGEDgCONJOINEDa SPLITbhCLAW FOUR FINGERS CONJOINEDbbFIST FOUR FINGERS CONJOINED BENT",
    "bgHINGE FOUR FINGERS CONJOINEDbcFLAT FIVE FINGERS SPREADtHEEL FIVE FINGERS SPREADyFIVE FINGERS SPREAD FOUR BENT",
    "bdHEEL FIVE FINGERS SPREAD FOUR BENTbiFIVE FINGERS SPREAD BENTyHEEL FIVE FINGERS SPREAD BENT",
    "bdFIVE FINGERS SPREAD THUMB FORWARDbmCUP FIVE FINGERS SPREADa OPENbcHINGE FIVE FINGERS SPREAD OPEN",
    "beOVAL FIVE FINGERS SPREADyFLAT FIVE FINGERS SPREAD HINGEDa THUMB SIDEkNO THUMBblTa BETWEEN PALM FACINGSuHEEL",
    "eTHUMB SIDEkHEEL THUMB SIDEpTHUMB BENTeFORWARDnSPLIT INDEX THUMB SIDEqCENTREa THUMB SIDEa BENTwLITTLErCLAW",
    "a THUMB SIDEkNO THUMBiTHUMB FORWARDsHOOK CURLICUEkKeCUP OPENgPa OPEN THUMB SIDEpTHUMB SIDEkOPEN NO THUMB",
    "nNO THUMBiOPEN THUMB FORWARDsTHUMB FORWARDpRLICUE OPENgEhIRCLEgOVALa THUMB SIDEkNO THUMBiTHUMB FORWARD",
    "sHINGE OPENa THUMB FORWARDuEa %fOPEN THUMB SIDEpTHUMB SIDEkOPEN NO THUMBnNO THUMBiTHUMB SIDE TOUCHING INDEX",
    "tBETWEEN MIDDLE RINGbfANGLEfFIST INDEX MIDDLE RINGwCIRCLE INDEX MIDDLE RINGyHINGE INDEX MIDDLE RING",
    "xANGLE INDEX MIDDLE RINGxHINGE LITTLEmFIST INDEX MIDDLE RING BENTeCONJOINEDbgHINGE INDEX MIDDLE RING CONJOINED",
    "bhFIST LITTLE DOWNa RIPPLE STRAIGHTiCURVEDnOTHERS CIRCLEDtUPjTHUMB UNDER LITTLE UPbaCIRCLE LITTLE UP",
    "qOVAL LITTLE UPoANGLE LITTLE UPpFIST LITTLE RAISED KNUCKLEoBENTeTOUCHES THUMBmHUMBrHINGE LITTLE THUMB",
    "sFIST LITTLE INDEX THUMBxHINGE LITTLE INDEX THUMByANGLE LITTLE INDEX THUMB INDEX THUMB OUTfBbkFIST LITTLE INDEX",
    "rCIRCLE LITTLE INDEXtHINGE LITTLE INDEXsANGLE LITTLE INDEXsFIST INDEX MIDDLE LITTLEyCIRCLE INDEX MIDDLE LITTLE",
    "baHINGE INDEX MIDDLE LITTLEtRINGkANGLE INDEX MIDDLE LITTLEzFIST INDEX MIDDLE CROSS LITTLE",
    "beCIRCLE INDEX MIDDLE CROSS LITTLEbgFIST RING DOWNoHINGE RING DOWN INDEX THUMB HOOK MIDDLE",
    "bnANGLE RING DOWN MIDDLE THUMB INDEX CROSSboFIST RING UPcRAISED KNUCKLEoLITTLEqCIRCLE RING LITTLE",
    "sOVAL RING LITTLEqANGLE RING LITTLErFIST RING MIDDLEa CONJOINEDjRAISED KNUCKLESwINDEXfTHUMBpHOOK RING THUMB",
    "pFIST INDEX RING LITTLEwCIRCLE INDEX RING LITTLExURLICUE INDEX RING LITTLE ONbdHOOK INDEX RING LITTLE OUTdIN",
    "cUNDERbcCUP INDEX RING LITTLEvHINGE INDEX RING LITTLExANGLE INDEX RING LITTLE OUTfExFIST MIDDLE DOWN",
    "qHINGE MIDDLEmFIST MIDDLE UPoCIRCLE MIDDLE UPqFIST MIDDLE RAISED KNUCKLEoUP THUMB SIDEzHOOK MIDDLE THUMB",
    "rFIST MIDDLE THUMB LITTLEmLITTLEgRING LITTLExCIRCLE MIDDLE RING LITTLEyURLICUE MIDDLE RING LITTLE ON",
    "bcP MIDDLE RING LITTLEwHINGE MIDDLE RING LITTLEyANGLE MIDDLE RING LITTLE OUTdINeE",
    "yCIRCLE MIDDLE RING LITTLE BENTbdLAW MIDDLE RING LITTLE CONJOINEDa SIDEbmHOOK MIDDLE RING LITTLE CONJOINED OUT",
    "dINeDbgINGE INDEX HINGEDsFIST INDEX THUMB SIDEvHINGE INDEX THUMB SIDEwFIST INDEX THUMB SIDE THUMB DIAGONAL",
    "iCONJOINEDjBENTkINDEX BENTkBOTH BENTjINDEX HINGEqFORWARD INDEX STRAIGHTiBENTsHOOKeCURLICUEfVE THUMB INSIDE",
    "bjCLAW INDEX THUMB CURVE THUMB INSIDEbjFIST INDEX THUMB CURVE THUMB UNDERqIRCLExCUP INDEX THUMBa OPEN",
    "uHINGE INDEX THUMB OPENeLARGEhBa %xANGLE INDEX THUMB OUTdINeBrFIST THUMBa HEELeSIDE DIAGONALiCONJOINEDjBENT",
    "jFORWARDhBETWEEN INDEX MIDDLEmMIDDLE RINGlRING LITTLEtUNDER TWO FINGERSrOVER TWO FINGERSqUNDER THREE FINGERS",
    "nFOUR FINGERSsOVER FOUR RAISED KNUCKLESbhTa HEELoTOUCH SINGLEgMULTIPLEiBETWEENnGRASP SINGLEgMULTIPLEiBETWEEN",
    "nSTRIKE SINGLEgMULTIPLEiBETWEENoBRUSH SINGLEgMULTIPLEiBETWEENnRUB SINGLEgMULTIPLEiBETWEENlSURFACE~ShBETWEEN",
    "oQUEEZE LARGE SINGLEm% SINGLEmLARGE MULTIPLEo% MULTIPLEnEQUENTIALsFLICK LARGE SINGLEm% SINGLEmLARGE MULTIPLE",
    "o% MULTIPLEnEQUENTIALqSQUEEZE FLICK ALTERNATINGzMOVEMENT-HINGE UP DOWN LARGEf%kSEQUENTIALnDOWN SEQUENTIAL",
    "pUP DOWN ALTERNATING LARGEf%zSIDE TO SIDE SCISSORSbbWALLPLANE FINGER CONTACTyFLOORPLANE FINGER CONTACT",
    "zWALLPLANE SINGLE STRAIGHT %fMEDIUMgLARGEaSTqWRIST FLEXr> STRAIGHTiWRIST FLEXkALTERNATINGa WRIST FLEXbdCROSS",
    "fTRIPLE STRAIGHT MOVEMENTrWRIST FLEXkALTERNATINGa WRIST FLEXbdBEND %fMEDIUMgLARGEkCORNER %fMEDIUMgLARGE",
    "fROTATIONoHECK %fMEDIUMgLARGElBOX %fMEDIUMgLARGEjZIGZAG %fMEDIUMgLARGEmPEAKS %fMEDIUMgLARGE",
    "beTRAVEL-WALLPLANE ROTATION-WALLPLANE SINGLEg>gALTERNATINGvFLOORPLANE SINGLEg>gALTERNATINGbfSHAKING",
    "hARM SPIRAL SINGLEg>gTRIPLEbiMOVEMENT-DIAGONAL AWAY %fMEDIUMgLARGEaSTmTO, %fMEDIUMgLARGEaSTpBETWEEN AWAY %",
    "fMEDIUMgLARGEaSTmTO, %fMEDIUMgLARGEaSTbgFLOORPLANE SINGLE STRAIGHT %fMEDIUMgLARGEaSTqWRIST FLEXr> STRAIGHT",
    "iWRIST FLEXkALTERNATINGa WRIST FLEXbdCROSSfTRIPLE STRAIGHT MOVEMENTrWRIST FLEXkALTERNATING MOVEMENTiWRIST FLEX",
    "bdBENDeCORNER %fMEDIUMgLARGElHECKfBOX %fMEDIUMgLARGEjZIGZAG %fMEDIUMgLARGEmPEAKS %fMEDIUMgLARGE",
    "bfTRAVEL-FLOORPLANE ROTATION-FLOORPLANE SINGLEg>gALTERNATINGwWALLPLANE SINGLEg>gALTERNATINGbeSHAKING",
    "zMOVEMENT-WALLPLANE CURVE QUARTER %fMEDIUMgLARGEaSTpHALF-CIRCLE %fMEDIUMgLARGEaSTtTHREE-QUARTER CIRCLE %fMEDIUM",
    "bhHUMP %fMEDIUMgLARGEkLOOP %fMEDIUMgLARGEf% >rWAVE CURVE > %fMEDIUMgLARGEmTRIPLE %fMEDIUMgLARGE",
    "xCURVE THEN STRAIGHToD CROSS %fMEDIUMbmROTATION-WALLPLANE SINGLEg>gALTERNATEbcMOVEMENT-WALLPLANE SHAKING",
    "hCURVE HITTING FRONT WALLyHUMP HITTING FRONT WALLxLOOP HITTING FRONT WALLxWAVE HITTING FRONT WALL",
    "bqROTATION-WALLPLANE SINGLE HITTING FRONT WALLz> HITTING FRONT WALLzALTERNATING HITTING FRONT WALL",
    "bxMOVEMENT-WALLPLANE CURVE HITTING CHESTtHUMP HITTING CHESTsLOOP HITTING CHESTsWAVE HITTING CHEST",
    "blROTATION-WALLPLANE SINGLE HITTING CHESTu> HITTING CHESTuALTERNATING HITTING CHEST",
    "bsMOVEMENT-WALLPLANE WAVE DIAGONAL PATH %fMEDIUMgLARGEbiFLOORPLANE CURVE HITTING CEILING %fLARGE",
    "bbHUMP HITTING CEILING % >mLARGE >m% TRIPLEmLARGE TRIPLEbhLOOP HITTING CEILING % SINGLEmLARGE SINGLEm% >",
    "mLARGE >bhWAVE HITTING CEILING %fLARGEbuROTATION-FLOORPLANE SINGLE HITTING CEILINGw> HITTING CEILING",
    "wALTERNATING HITTING CEILINGbvMOVEMENT-FLOORPLANE CURVE HITTING FLOOR %fLARGEzHUMP HITTING FLOOR % >mLARGE >",
    "mTRIPLE % TRIPLEmLARGE TRIPLEbmLOOP HITTING FLOOR % SINGLEmLARGE SINGLEm% >mLARGE >bfWAVE HITTING FLOOR %fLARGE",
    "bsROTATION-FLOORPLANE SINGLE HITTING FLOORu> HITTING FLOORuALTERNATING HITTING FLOOR",
    "btMOVEMENT-FLOORPLANE CURVE %fMEDIUMgLARGEaSThCOMBINEDoHUMP %kLOOP %kWAVE SNAKEeMALLfLARGE",
    "beROTATION-FLOORPLANE SINGLEg>gALTERNATINGbfMOVEMENT-FLOORPLANE SHAKING PARALLELbbWALLPLANE ARM CIRCLE % SINGLE",
    "mMEDIUM SINGLEn% >mMEDIUM >biFLOORPLANE ARM CIRCLE HITTING WALL % SINGLEmMEDIUM SINGLEnLARGE SINGLEm% >",
    "mMEDIUM >nLARGE >bvWALLPLANE WRIST CIRCLE FRONT SINGLEg>bjFLOORPLANE WRIST CIRCLE HITTING WALL SINGLEg>",
    "brWALLPLANE FINGER CIRCLES SINGLEg>bfFLOORPLANE FINGER CIRCLES HITTING WALL SINGLEg>ccDYNAMIC&HEAD %fLARGEpFAST",
    "eSLOWeTENSEfRELAXEDhSIMULTANEOUSa ALTERNATINGyEVERY OTHER TIMEqGRADUALpHEADa RIMdMOVEMENT-WALLPLANE STRAIGHT",
    "iTILToFLOORPLANE STRAIGHTtWALLPLANE CURVEpFLOORPLANE CURVEr CIRCLEuFACE DIRECTION POSITION NOSE FORWARD TILTING",
    "pUP OR DOWNa TILTINGbvEYEBROWS STRAIGHT UPcNEUTRALhDOWNwDREAMY EYEBROWS NEUTRAL DOWNmDOWN NEUTRALmUP NEUTRAL",
    "kNEUTRAL UPbaFOREHEAD NEUTRALhCONTACThWRINKLEDrEYES OPENeSQUEEZEDiCLOSEDi BLINK SINGLEgMULTIPLEpS HALF OPEN",
    "jWIDE OPENjHALF CLOSEDlWIDENING MOVEMENTt WINKfLASHES UPcDOWNeFLUTTERINGrGAZE-WALLPLANE STRAIGHTa >gALTERNATING",
    "beFLOORPLANE STRAIGHTa >gALTERNATINGbfWALLPLANE CURVEDqFLOORPLANE CURVEDrWALLPLANE CIRCLINGbaCHEEKS PUFFED",
    "gNEUTRALhSUCKEDnTENSE CHEEKS HIGHeMIDDLEgLOWqEARSeNOSE NEUTRALhCONTACThWRINKLEShIGGLESmAIR BLOWING OUT",
    "lSUCKING INkBLOW % ROTATIONSuSUCK % ROTATIONSyBREATH INHALEgEXHALEnMOUTH CLOSED NEUTRALhFORWARDhCONTACToSMILE",
    "a WRINKLEDiOPENkFROWNa WRINKLEDiOPENkOPEN CIRCLEgFORWARDhWRINKLEDiOVALa WRINKLEDiYAWNjRECTANGLEa WRINKLEDiYAWN",
    "tKISSa FORWARDhWRINKLEDnTENSEa FORWARDhSUCKEDsLIPS PRESSED TOGETHERs LOWER OVER UPPERqUPPER OVER LOWER",
    "uMOUTH CORNERShWRINKLES SINGLEg>vTONGUE STICKING OUT FARqLICKING LIPSmTIP BETWEEN LIPSmTOUCHING INSIDE MOUTH",
    "zINSIDE MOUTH RELAXEDuMOVES AGAINST CHEEKtCENTRE STICKING OUTmINSIDE MOUTHzEETHa MOVEMENTiON TONGUEa MOVEMENT",
    "pLIPSa MOVEMENTqBITE LIPSpMOVEMENT-WALLPLANE JAWnFLOORPLANE JAWxNECKeHAIReEXCITEMENTkSHOULDER HIP SPINE",
    "fPOSITIONSwWALLPLANE SHOULDER HIP MOVEbbFLOORPLANE SHOULDER HIP MOVEbcSHOULDER TILTING FROM WAIST",
    "bbTORSO-WALLPLANE STRAIGHT STRETCHqCURVED BENDvFLOORPLANE TWISTINGzUPPER BODY TILTING FROM HIP JOINTS",
    "biLIMB COMBINATIONlLENGTH-1b2b3b4b5b6b7nFINGERgLOCATION-WALLPLANE SPACEpFLOORPLANE SPACEr HEIGHTgWIDTHfDEPTH",
    "fHEAD NECKjTORSOfLIMBS DIGITSvCOMMAfFULL STOPjSEMICOLONjCOLONfPARENTHESIS;1da9b:lFILL MODIFIER-2b3b4b5b6",
    "1daa1:pROTATION MODIFIER-2b3b4b5b6b7b8b9b10b1b2b3b4b5b6;1e000:bgCOMBINING GLAGOLITIC!AZUdBUKYeVEDEeGLAGOLI",
    "hDOBROfYESTUfZHIVETE;1e008:gEMLJAgIZHEdNITIAL IZHEmIbDJERVIgKAKOeLJUDIJEhMYSLITEhNASHIfONUdPOKOJIgRITSIfSLOVO",
    "fTVRIDOgUKUdFRITUfHERU;1e01b:eSHTAeTSIdCHRIVIgSHAdYERUbIdATI;1e023:dUc% YUS;1e026:jYOcIOTATED % YUSrBIG YUS",
    "hIOTATED BIG YUSpFITA;1e100:bgNYIAKENG PUACHUE HMONG!MAcTSAdNTAdTAcHAcNAcXAcNKAdCAcLAcSAcZAcNCAcTSAeKAcDAcNYA",
    "cRAdVAcNTXAeTXAdFAcRAcQAcYAcNQAdPAcXYAdNPAdDLAdNPLAeHAHdMLAdPLAdGAcRRAdAaAcIbUbOaOcEaEcW;1e130:iTONE-BbMbJbVbS",
    "bGbDgSIGN FOR PERSONgTHINGfLOCATIONiANIMALgINVERTEBRATEqXW XWjYLLABLE LENGTHENER;1e140:tDIGIT ZEROeONEdTWOcHREE",
    "fFOURdIVEeSIXcEVENfEIGHTfNINE;1e14e:kLOGOGRAM NYAJnCIRCLED CA;1e290:bhTOTO!PAcBAcTAcDAcKAcGAcMAcNAbGAdSAcCHAdYA",
    "cWAcJAcHAcRAcLAcIbBREATHY IjIUcBREATHY IUkUbEbBREATHY EjEOcBREATHY EOkObAEcBREATHY AEkAiSIGN RISING TONE",
    "1e2c0:vWANCHO!AAcAbBAcCAcDAcGAcYAcPHAdLAcNAcPAcTAbHAdFAcSAbHAdJAcZAcWAcVAcKAcObAUcRAcMAcKHAdHAcEbIbNGAdUbLLHA",
    "eTSAcRAdONGdAANGdNGdINGdONcENcAANdNYAdUENdYIHkTONE TUPaNIfKOIaNIkDIGIT ZEROeONEdTWOcHREEfFOURdIVEeSIXcEVEN",
    "fEIGHTfNINE;1e2ff:kNGUN.;1e7e8:qETHIOPIC SYLLABLE GURAGE HHWA;1e7ed:eMWIbEE;1e7f0:eQWIbEEcEdBWIbEEeKWIbEEcEdGWI",
    "bEEcEdFWIbEEePWIbEE;1e800:bdMENDE KIKAKUI SYLLABLE M001 KIe2 KAe3 KUf65 KEEg95 KEf76 KOOg48 KOg179 KUAh004 WI",
    "e5 WAe6 WUg126 WEEg18 WEe4 WOOh045 WOg194 WUIg43 WEIh061 WVIg49 WVAh139 WVEh007 MINf8 MANf9 MUNg59 MENg94 MON",
    "h154 MUANh89 MUENi010 BIe1 BAe2 BUg150 BEEh097 BEg103 BOOg38 BOg013 Id4 Ad5 Uf163 EEf00 Ee65 OOf47 Oe37 EIe1 IN",
    "e5 INf95 ANf78 ENg019 SIf20 SAe1 SUg162 SEEg16 SEf36 SOOh079 SOg196 SIAh025 LIe6 LAe7 LUf84 LEEg73 LEf54 LOO",
    "h153 LOf10 LONG LEl016 DIe7 DAe8 DUf89 DEEh180 DOOf1 DOg022 TIe3 TAe4 TUf91 TEEg55 TEg104 TOOh069 TOf28 JIe9 JA",
    "f30 JUg157 JEEg13 JEf60 JOOh063 JOg175 LONG JOl031 YIe2 YAe3 YUg109 YEEh080 YEg141 YOOg21 YOg034 FIe5 FAe6 FU",
    "f78 FEEf5 FEg133 FOOh088 FOg197 FUAg01 FANh037 NINf8 NANf9 NUNh117 NENg69 NONg76 HIg041 HAg186 HUg040 HEEg96 HE",
    "f42 HOOh140 HOg083 HEEIi128 HOOUi053 HINh130 HANh087 HUNg52 HENh193 HONh046 HUANh90 NGGIh43 NGGAh82 NGGU",
    "i115 NGGEEi46 NGGEh56 NGGOOi20 NGGOh59 NGGAAi27 NGGUAj086 LONG NGGEn106 LONG NGGOOn83 LONG NGGOm55 GIf11 GA",
    "f68 GUf90 GEEg66 GUEIg7 GUANh84 NGENi057 NGONi177 NGUANj068 PIf99 PAf50 PUf81 PEEg51 PEg102 POOh066 POg145 MBI",
    "h062 MBAh122 MBUh047 MBEEi188 MBEEi072 MBEh172 MBOOg4 MBOg87 MBUUh61 LONG MBEl05 LONG MBOOm42 LONG MBOl32 KPI",
    "h092 KPAg74 KPUg44 KPEEi108 KPEg12 KPOOh58 KPOg24 GBIh056 GBAh148 GBUh093 GBEEi107 GBEh071 GBOOg0 GBOh171 RA",
    "f23 NDIf9 NDAf5 NDUg91 NDEEh19 NDEh067 NDOOg4 NDOh152 NJAg92 NJUg49 NJEEh34 NJOOh82 VIe5 VAf51 VUf73 VEEh085 VE",
    "g144 VOOh077 VOg164 NYINi058 NYANi170 NYUNi098 NYENh60 NYON;1e8c7:sDIGIT ONEdTWOcHREEfFOURdIVEeSIXcEVENfEIGHT",
    "fNINEkCOMBINING NUMBER TEENSdNSeHUNDREDSiTHOUSANDSiEN THOUSANDSnHUNDRED THOUSANDSrMILLIONS;1e900:bnADLAM $!ALIF",
    "eDAALIfLAAMeMIIMeBAcSINNYIIYHEkPEcBHEdRAcEbFAcIbObDHAdYHEdWAWdNUNdKAFdYAcUbJIIMeCHIdHAcQAAFeGAcNYAdTUcNHAdVA",
    "cKHAdGBEdZALdKPOdSHAs%!ALIFeDAALIfLAAMeMIIMeBAcSINNYIIYHEkPEcBHEdRAcEbFAcIbObDHAdYHEdWAWdNUNdKAFdYAcUbJIIMeCHI",
    "dHAcQAAFeGAcNYAdTUcNHAdVAcKHAdGBEdZALdKPOdSHAqALIF LENGTHENERpVOWEL LENGTHENERqGEMINATION|pHAMZA",
    "fCONSONANT MODIFIERsGEMINATE CONSONANT MODIFIERbbNUKTAeASALIZATION|;1e950:rDIGIT ZEROeONEdTWOcHREEfFOURdIVEeSIX",
    "cEVENfEIGHTfNINE;1e95e:kINITIAL EXCLAMATION|qQUESTION|;1ec71:bbINDIC SIYAQ NUMBER ONEdTWOcHREEfFOURdIVEeSIX",
    "cEVENfEIGHTfNINEeTENcWENTYfHIRTYgFORTYeIFTYfSIXTYeEVENTYhEIGHTYgNINETYgONE HUNDREDlTWO HUNDREDkHREE HUNDRED",
    "nFOUR HUNDREDlIVE HUNDREDmSIX HUNDREDkEVEN HUNDREDnEIGHT HUNDREDnNINE HUNDREDmONE THOUSANDmTWO THOUSAND",
    "lHREE THOUSANDoFOUR THOUSANDmIVE THOUSANDnSIX THOUSANDlEVEN THOUSANDoEIGHT THOUSANDoNINE THOUSANDnTEN THOUSAND",
    "lWENTY THOUSANDoHIRTY THOUSANDpFORTY THOUSANDnIFTY THOUSANDoSIXTY THOUSANDnEVENTY THOUSANDqEIGHTY THOUSAND",
    "pNINETY THOUSANDpLAKHaANnLAKH|jNUMBER KARORaANhPREFIXED ONEdTWOcHREEfFOURdIVEeSIXcEVENfEIGHTfNINEuPLACEHOLDER",
    "lFRACTION ONE QUARTERhHALFiTHREE QUARTERSxRUPEE|kNUMBER ALTERNATE ONEdTWOcEN THOUSANDbdALTERNATE LAKH|",
    "1ed01:bfOTTOMAN SIYAQ NUMBER ONEdTWOcHREEfFOURdIVEeSIXcEVENfEIGHTfNINEeTENcWENTYfHIRTYgFORTYeIFTYfSIXTYeEVENTY",
    "hEIGHTYgNINETYgONE HUNDREDlTWO HUNDREDkHREE HUNDREDnFOUR HUNDREDlIVE HUNDREDmSIX HUNDREDkEVEN HUNDRED",
    "nEIGHT HUNDREDnNINE HUNDREDmONE THOUSANDmTWO THOUSANDlHREE THOUSANDoFOUR THOUSANDmIVE THOUSANDnSIX THOUSAND",
    "lEVEN THOUSANDoEIGHT THOUSANDoNINE THOUSANDnTEN THOUSANDlWENTY THOUSANDoHIRTY THOUSANDpFORTY THOUSAND",
    "nIFTY THOUSANDoSIXTY THOUSANDnEVENTY THOUSANDqEIGHTY THOUSANDpNINETY THOUSANDwMARRATANiALTERNATE NUMBER TWO",
    "cHREEfFOURdIVEeSIXcEVENfEIGHTfNINEeTENdFOUR HUNDREDmSIX HUNDREDlTWO THOUSANDlEN THOUSANDbdFRACTION ONE HALF",
    "eSIXTH;1ee00:bgARABIC MATHEMATICAL ALEFeBEHdJEEMeDAL;1ee05:dWAWdZAINeHAHdTAHdYEHdKAFdLAMdMEEMeNOONeSEENeAINdFEH",
    "dSADdQAFdREHdSHEENfTEHcHEHeKHAHeTHALeDADdZAHdGHAINfDOTLESS BEHdNOONeFEHdQAF;1ee21:lINITIAL BEHdJEEM;1ee24:eHEH",
    "1ee27:cAH;1ee29:dYEHdKAFdLAMdMEEMeNOONeSEENeAINdFEHdSADdQAF;1ee34:dSHEENfTEHcHEHeKHAH;1ee39:eDAD;1ee3b:dGHAIN",
    "1ee42:nTAILED JEEM;1ee47:eHAH;1ee49:dYEH;1ee4b:dLAM;1ee4d:dNOONeSEENeAIN;1ee51:dSADdQAF;1ee54:dSHEEN",
    "1ee57:fKHAH;1ee59:eDAD;1ee5b:dGHAIN;1ee5d:fDOTLESS NOON;1ee5f:eQAF;1ee61:sSTRETCHED BEHdJEEM;1ee64:eHEH",
    "1ee67:cAHdTAHdYEHdKAF;1ee6c:dMEEMeNOONeSEENeAINdFEHdSADdQAF;1ee74:dSHEENfTEHcHEHeKHAH;1ee79:eDADdZAHdGHAIN",
    "fDOTLESS BEH;1ee7e:dFEH;1ee80:vLOOPED ALEFeBEHdJEEMeDALdHEHdWAWdZAINeHAHdTAHdYEH;1ee8b:dLAMdMEEMeNOONeSEENeAIN",
    "dFEHdSADdQAFdREHdSHEENfTEHcHEHeKHAHeTHALeDADdZAHdGHAIN;1eea1:m>-STRUCK BEHdJEEMeDAL;1eea5:dWAWdZAINeHAHdTAHdYEH",
    "1eeab:dLAMdMEEMeNOONeSEENeAINdFEHdSADdQAFdREHdSHEENfTEHcHEHeKHAHeTHALeDADdZAHdGHAIN",
    "1eef0:tOPERATOR MEEM#HAH#TATWEELbaHAH#DAL;1f000:bpMAHJONG TILE EAST WINDjSOUTH WINDkWEST WINDjNORTH WIND",
    "kRED DRAGONkGREEN DRAGONmWHITE DRAGONmONE OF CHARACTERSrTWO OF CHARACTERSqHREE OF CHARACTERStFOUR OF CHARACTERS",
    "rIVE OF CHARACTERSsSIX OF CHARACTERSqEVEN OF CHARACTERStEIGHT OF CHARACTERStNINE OF CHARACTERSsONE OF BAMBOOS",
    "oTWO OF BAMBOOSnHREE OF BAMBOOSqFOUR OF BAMBOOSoIVE OF BAMBOOSpSIX OF BAMBOOSnEVEN OF BAMBOOSqEIGHT OF BAMBOOS",
    "qNINE OF BAMBOOSpONE OF CIRCLESoTWO OF CIRCLESnHREE OF CIRCLESqFOUR OF CIRCLESoIVE OF CIRCLESpSIX OF CIRCLES",
    "nEVEN OF CIRCLESqEIGHT OF CIRCLESqNINE OF CIRCLESpPLUMeORCHIDgBAMBOOgCHRYSANTHEMUMnSPRINGfUMMERgAUTUMNgWINTER",
    "gJOKERfBACK;1f030:rDOMINO TILE HORIZONTAL BACKf-00-00b1b2b3b4b5b6e1-00b1b2b3b4b5b6e2-00b1b2b3b4b5b6e3-00b1b2b3",
    "b4b5b6e4-00b1b2b3b4b5b6e5-00b1b2b3b4b5b6e6-00b1b2b3b4b5b6q_ BACKf-00-00b1b2b3b4b5b6e1-00b1b2b3b4b5b6e2-00b1b2b3",
    "b4b5b6e3-00b1b2b3b4b5b6e4-00b1b2b3b4b5b6e5-00b1b2b3b4b5b6e6-00b1b2b3b4b5b6;1f0a0:baPLAYING CARD BACK",
    "eACE OF SPADESnTWO OF SPADESmHREE OF SPADESpFOUR OF SPADESnIVE OF SPADESoSIX OF SPADESmEVEN OF SPADES",
    "pEIGHT OF SPADESpNINE OF SPADESoTEN OF SPADESnJACK OF SPADESoKNIGHT OF SPADESqQUEEN OF SPADESpKING OF SPADES",
    "1f0b1:oACE OF HEARTSnTWO OF HEARTSmHREE OF HEARTSpFOUR OF HEARTSnIVE OF HEARTSoSIX OF HEARTSmEVEN OF HEARTS",
    "pEIGHT OF HEARTSpNINE OF HEARTSoTEN OF HEARTSnJACK OF HEARTSoKNIGHT OF HEARTSqQUEEN OF HEARTSpKING OF HEARTS",
    "oRED JOKER;1f0c1:jACE OF DIAMONDSpTWO OF DIAMONDSoHREE OF DIAMONDSrFOUR OF DIAMONDSpIVE OF DIAMONDS",
    "qSIX OF DIAMONDSoEVEN OF DIAMONDSrEIGHT OF DIAMONDSrNINE OF DIAMONDSqTEN OF DIAMONDSpJACK OF DIAMONDS",
    "qKNIGHT OF DIAMONDSsQUEEN OF DIAMONDSrKING OF DIAMONDSqBLACK JOKER;1f0d1:lACE OF CLUBSmTWO OF CLUBS",
    "lHREE OF CLUBSoFOUR OF CLUBSmIVE OF CLUBSnSIX OF CLUBSlEVEN OF CLUBSoEIGHT OF CLUBSoNINE OF CLUBSnTEN OF CLUBS",
    "mJACK OF CLUBSnKNIGHT OF CLUBSpQUEEN OF CLUBSoKING OF CLUBSnWHITE JOKERlFOOLeTRUMP-1b2b3b4b5b6b7b8b9b10b1b2b3b4",
    "b5b6b7b8b9c20b1;1f10b:vDINGBAT CIRCLED SANS-SERIF DIGIT ZERObdNEGATIVE CIRCLED SANS-SERIF DIGIT ZERO",
    "buCIRCLED ZERO#SLASHpANTICLOCKWISE&tDOLLAR.#OVERLAID BACKSLASHbrPARENTHESIZED LATIN $!AbBbCbDbEbFbGbHbIbJbKbLbM",
    "bNbObPbQbRbSbTbUbVbWbXbYbZ;1f12b:bkCIRCLED ITALIC LATIN $!CbRbdCDcWZ;1f130:kSQUARED LATIN $!AbBbCbDbEbFbGbHbIbJ",
    "bKbLbMbNbObPbQbRbSbTbUbVbWbXbYbZwHVcMVcSDbScPPVdWCkNEGATIVE CIRCLED LATIN $!AbBbCbDbEbFbGbHbIbJbKbLbMbNbObPbQbR",
    "bSbTbUbVbWbXbYbZbnRAISED MC.gD.gR.oCIRCLED CCb#OVERLAID BACKSLASHzHUMAN FIGUREuNEGATIVE SQUARED LATIN $!AbBbCbD",
    "bEbFbGbHbIbJbKbLbMbNbObPbQbRbSbTbUbVbWbXbYbZ;1f18b:wICcPAcSAcABcWCtSQUARE DJdD CLbOOLeFREEeIDcNEWcGcOKcSOS",
    "dUP#EXCLAMATION|yVScTHREE DhSECOND SCREENnTWO KfFOUR KgEIGHT KhFIVE POINT ONEoSEVEN POINT ONE",
    "pTWENTY-TWO POINT TWOuSIXTY PhONE HUNDRED TWENTY PuLATIN %!DuHCbDRcI-RESgLOSSLESSiSHVdUHDdVOD",
    "1f1e6:lREGIONAL INDICATOR~!AbBbCbDbEbFbGbHbIbJbKbLbMbNbObPbQbRbSbTbUbVbWbXbYbZbiSQUARE HIRAGANA HOKA",
    "oD KATAKANA KOKOeSA;1f210:lCJK UNIFIED IDEOGRAPH-624Be5B57d3CCbaKATAKANA DElCJK UNIFIED IDEOGRAPH-4E8Ce591A",
    "e89E3e5929e4EA4e6620e7121e6599e524DdF8Cd18De65B0e521De7D42d51Fe8CA9e58F0d439e6F14d295d355e4E00b9e904Ae5DE6e4E2D",
    "e53F3e6307e8D70e6253e7981dA7Ae5408e6E80d709b8e7533e5272d5B6e914D;1f250:biCIRCLED IDEOGRAPH ADVANTAGEiCCEPT",
    "1f302:xLOSED UMBRELLA;1f311:pNEW MOON~;1f31a:gWITH FACE;1f322:sBLACK DROPLETnWHITE SUNa#% CLOUDqBEHIND CLOUD",
    "a#RAIN;1f398:bgMUSICAL KEYBOARD#JACKS;1f3a9:bbTOP HAT;1f3b5:hMUSICAL NOTE;1f3b9:eKEYBOARD;1f3bc:iSCORE",
    "1f3f1:nWHITE PENNANTnBLACK PENNANT;1f3f6:hROSETTE;1f446:nWHITE UP POINTING BACKHAND INDEX",
    "baDOWN POINTING BACKHAND INDEXbc= POINTING BACKHAND INDEXbc) POINTING BACKHAND INDEX;1f450:bjOPEN HANDS.",
    "1f46c:pTWO MEN HOLDING HANDSrWOMEN HOLDING HANDS;1f471:xPERSON#BLOND HAIR;1f486:wFACE MASSAGE;1f495:mTWO HEARTS",
    "1f4ae:kWHITE FLOWER;1f4b2:mHEAVY DOLLAR.;1f4c2:rOPEN FILE FOLDER;1f4d5:qCLOSED BOOKlOPEN BOOK",
    "1f4ea:jCLOSED MAILBOX#LOWERED FLAGmRAISED FLAGbfOPEN MAILBOX#RAISED FLAGlLOWERED FLAG",
    "1f504:beANTICLOCKWISE DOWN,*UP, OPEN CIRCLE&S;1f510:ccCLOSED LOCK#KEY;1f513:uOPEN LOCK;1f51d:jTOP#UP,&+",
    "1f532:bcBLACK SQUARE BUTTONtWHITE SQUARE BUTTONtLARGE RED CIRCLEkBLUE CIRCLElORANGE DIAMONDoBLUE DIAMOND",
    "1f53e:rOWER ) SHADOWED WHITE CIRCLEbhUPPER ) SHADOWED WHITE CIRCLEbhCIRCLED CROSS POMMEE",
    "1f545:uSYMBOL FOR|S CHAPTERyWHITE LATIN CROSSrHEAVY LATIN CROSS;1f550:rCLOCK FACE ONE OCLOCKkTWO OCLOCK",
    "jHREE OCLOCKmFOUR OCLOCKkIVE OCLOCKlSIX OCLOCKjEVEN OCLOCKmEIGHT OCLOCKmNINE OCLOCKlTEN OCLOCKkELEVEN OCLOCK",
    "nTWELVE OCLOCKnONE-THIRTYkTWO-THIRTYjHREE-THIRTYmFOUR-THIRTYkIVE-THIRTYlSIX-THIRTYjEVEN-THIRTYmEIGHT-THIRTY",
    "mNINE-THIRTYlTEN-THIRTYkELEVEN-THIRTYnTWELVE-THIRTY;1f571:yBLACK SKULL*CROSSBONES",
    "1f57e:baWHITE TOUCHTONE TELEPHONEzBLACK TOUCHTONE TELEPHONE;1f588:tPUSHPINnLOWER = PENCILgBALLPOINT PEN",
    "nFOUNTAIN PENmPAINTBRUSHkCRAYON;1f58f:rTURNED OK HAND.tRAISED HAND#FINGERS SPLAYED",
    "bfEVERSED RAISED HAND#FINGERS SPLAYEDbgTHUMBS UP.hDOWN.qVICTORY HANDmHAND#MIDDLE FINGER EXTENDED",
    "boAISED HAND#PART BETWEEN MIDDLE*RING FINGERScbWHITE DOWN POINTING = HAND INDEX",
    "1f59c:bjBLACK = POINTING BACKHAND INDEXbc) POINTING BACKHAND INDEX;1f5a2:bdUP POINTING BACKHAND INDEX",
    "baDOWN POINTING BACKHAND INDEXbcHEART;1f5a7:lTHREE NETWORKED COMPUTERS;1f5aa:zBLACK HARD SHELL FLOPPY DISK",
    "bcWHITE HARD SHELL FLOPPY DISK;1f5b0:bcTWO BUTTON MOUSEpHREE BUTTON MOUSE;1f5bf:sBLACK FOLDER",
    "1f5c1:mOPEN FOLDER;1f5c5:lEMPTY NOTEa PAGEcD;1f5cb:iDOCUMENTiPAGEaS;1f5e4:lTHREE RAYS+fBELOWf=e)",
    "1f5ea:pWO SPEECH BUBBLESrHREE SPEECH BUBBLES;1f5f8:uLIGHT CHECK|;1f602:qFACE#TEARS OF JOY",
    "wSMILING FACE#OPEN MOUTHa*SMILING EYESmCOLD SWEATkTIGHTLY-CLOSED EYESbiHALOdORNS;1f60a:fSMILING EYES",
    "beFACE SAVOURING DELICIOUS FOOD;1f60d:bdSMILING FACE#HEART-SHAPED EYESrSUNGLASSES;1f610:bcNEUTRAL FACE",
    "1f613:mFACE#COLD SWEAT;1f618:pTHROWING A KISS;1f61b:pWITH STUCK-OUT TONGUEa*WINKING EYElTIGHTLY-CLOSED EYES",
    "1f624:boLOOK OF TRIUMPH;1f62e:pOPEN MOUTH;1f630:a*COLD SWEATbeSCREAMING IN FEAR;1f636:rWITHOUT MOUTH",
    "j MEDICAL MASK;1f63a:wSMILING CAT FACE#OPEN MOUTHkHEART-SHAPED EYES;1f644:bnFACE#ROLLING EYESmNO GOOD GESTURE",
    "pOK GESTUREuPERSON BOWING DEEPLY;1f64c:nRAISING BOTH HANDS IN CELEBRATIONbhFROWNINGiWITH POUTING FACE",
    "mFOLDED HANDSyNORTH WEST POINTING LEAFySOUTH WEST POINTING LEAFyNORTH EAST POINTING LEAF",
    "ySOUTH EAST POINTING LEAFyTURNED NORTH WEST POINTING LEAFySOUTH WEST POINTING LEAFyNORTH EAST POINTING LEAF",
    "ySOUTH EAST POINTING LEAFbfNORTH WEST POINTING VINE LEAFbdSOUTH WEST POINTING VINE LEAF",
    "bdNORTH EAST POINTING VINE LEAFbdSOUTH EAST POINTING VINE LEAFbdHEAVY NORTH WEST POINTING VINE LEAF",
    "bdSOUTH WEST POINTING VINE LEAFbdNORTH EAST POINTING VINE LEAFbdSOUTH EAST POINTING VINE LEAF",
    "bjNORTH WEST POINTING BUDxSOUTH WEST POINTING BUDxNORTH EAST POINTING BUDxSOUTH EAST POINTING BUD",
    "xHEAVY NORTH WEST POINTING BUDxSOUTH WEST POINTING BUDxNORTH EAST POINTING BUDxSOUTH EAST POINTING BUD",
    "1f66c:bd=, ROCKETqUP, ROCKETo), ROCKETrDOWN, ROCKETqSCRIPT LIGATURE ET ORNAMENT",
    "bbHEAVY SCRIPT LIGATURE ET ORNAMENT;1f673:bbLIGATURE OPEN ET ORNAMENTzAMPERSAND ORNAMENT",
    "1f679:sINTERROBANG ORNAMENT;1f67b:uSANS-SERIF INTERROBANG ORNAMENTblVERY HEAVY SOLIDUShREVERSE SOLIDUS",
    "1f688:baLIGHT RAIL;1f6a5:kHORIZONTAL TRAFFIC LIGHT;1f6c8:yCIRCLED INFORMATION SOURCE",
    "1f700:baALCHEMICAL~ FOR QUINTESSENCEmAIRdFIREeEARTHfWATERfAQUAFORTISg REGIAa-2hVITAEa-2mVINEGARa-2b3jSULFUR",
    "gPHILOSOPHERS SULFURtBLACK SULFURmMERCURY SUBLIMATEa-2b3tCINNABARiSALTeNITREfVITRIOLa-2jROCK SALTa-2lGOLD",
    "eSILVERgIRON OREa-2kCROCUS OF IRONoREGULUS OF IRONpCOPPER OREkIRON-COPPER OREpSUBLIMATE OF COPPER",
    "tCROCUS OF COPPERa-2rOPPER ANTIMONIATEsSALT OF COPPER ANTIMONIATEzUBLIMATE OF SALT OF COPPERbbVERDIGRISjTIN ORE",
    "hLEAD OREiANTIMONY OREmSUBLIMATE OF ANTIMONYuALT OF ANTIMONYpUBLIMATE OF SALT OF ANTIMONYbdVINEGAR OF ANTIMONY",
    "tREGULUS OF ANTIMONYa-2pSa-2b3b4jALKALIa-2iMARCASITEjSAL-AMMONIACmARSENIChREALGARa-2jAURIPIGMENTlBISMUTH ORE",
    "lTARTARa-2iQUICK LIMEkBORAXa-2b3hALUMeOILdSPIRITgTINCTUREiGUMdWAXdPOWDERgCALXeTUTTYfCAPUT MORTUUM",
    "nSCEPTER OF JOVEpCADUCEUSiTRIDENThSTARRED TRIDENTpLODESTONEjSOAPeURINEfHORSE DUNGkASHESfPOT ASHESjBRICK",
    "fPOWDERED BRICKoAMALGAMhSTRATUM SUPER STRATUMa-2wUBLIMATIONlPRECIPITATElDISTILLeSOLVEa-2kPURIFYeTREFACTION",
    "mCRUCIBLEa-2b3b4b5kALEMBIChBATH OF MARYeVAPOURSpRETORTgHOUReNIGHTfDAY-NIGHTjMONTHfHALF DRAMeOUNCE",
    "1f780:bgBLACK =-POINTING ISOSCELES )@bmUP-POINTING ISOSCELES )@bk)-POINTING ISOSCELES )@",
    "bnDOWN-POINTING ISOSCELES )@bmSLIGHTLY % CIRCLEbbMEDIUM BOLD WHITE CIRCLE;1f787:yHEAVY WHITE CIRCLE",
    "sVERY HEAVY WHITE CIRCLE;1f78a:xWHITE CIRCLE CONTAINING BLACK % CIRCLE;1f78c:bqBLACK TINY SQUARE",
    "lSLIGHTLY % SQUAREbbLIGHT WHITE SQUAREsMEDIUM WHITE SQUARE;1f791:tHEAVY WHITE SQUAREsVERY HEAVY WHITE SQUARE",
    "1f794:xWHITE SQUARE CONTAINING BLACK VERY % SQUARErMEDIUM SQUAREbrSQUARE TARGETnBLACK TINY DIAMOND",
    "mVERY % DIAMONDsMEDIUM % DIAMONDbaWHITE DIAMOND CONTAINING BLACK VERY % DIAMONDsMEDIUM DIAMOND",
    "1f79d:btBLACK TINY LOZENGEmVERY % LOZENGEsMEDIUM % LOZENGEbaWHITE LOZENGE CONTAINING BLACK % LOZENGE",
    "1f7a2:bsLIGHT GREEK CROSSrMEDIUM GREEK CROSS;1f7a5:sVERY BOLD GREEK CROSSqHEAVY GREEK CROSS",
    "1f7a9:wLIGHT SALTIREnMEDIUM SALTIRE;1f7ac:oHEAVY SALTIREnVERY HEAVY SALTIRE;1f7af:sLIGHT FIVE SPOKED ASTERISK",
    "baMEDIUM FIVE SPOKED ASTERISK;1f7b2:bbHEAVY FIVE SPOKED ASTERISKbaVERY HEAVY FIVE SPOKED ASTERISK",
    "1f7b5:bfLIGHT SIX SPOKED ASTERISKzMEDIUM SIX SPOKED ASTERISK;1f7b8:baHEAVY SIX SPOKED ASTERISK",
    "zVERY HEAVY SIX SPOKED ASTERISK;1f7bb:beLIGHT EIGHT SPOKED ASTERISKbbMEDIUM EIGHT SPOKED ASTERISK",
    "1f7be:bcHEAVY EIGHT SPOKED ASTERISKbbVERY HEAVY EIGHT SPOKED ASTERISKbgLIGHT THREE POINTED BLACK STAR",
    "beMEDIUM THREE POINTED BLACK STARbfTHREE POINTED BLACK STARyMEDIUM THREE POINTED PINWHEEL STAR",
    "biLIGHT FOUR POINTED BLACK STARbdMEDIUM FOUR POINTED BLACK STAR;1f7c7:kPINWHEEL STAR",
    "1f7c9:bhLIGHT FIVE POINTED BLACK STARbdHEAVY FIVE POINTED BLACK STARbdMEDIUM SIX POINTED BLACK STAR",
    "bdHEAVY SIX POINTED BLACK STAR;1f7ce:bcMEDIUM EIGHT POINTED BLACK STARbfHEAVY EIGHT POINTED BLACK STAR",
    "beVERY HEAVY EIGHT POINTED BLACK STARbjHEAVY EIGHT POINTED PINWHEEL STARbhLIGHT TWELVE POINTED BLACK STAR",
    "bfHEAVY TWELVE POINTED BLACK STARkPINWHEEL STARbiCIRCLED@qNEGATIVE CIRCLED@zCIRCLED SQUARE",
    "oNEGATIVE CIRCLED SQUARE;1f7e0:xLARGE ORANGE CIRCLEnYELLOW CIRCLEnGREEN CIRCLEmPURPLE CIRCLEnBROWN CIRCLE",
    "mRED SQUAREkBLUE SQUARElORANGE SQUAREnYELLOW SQUAREnGREEN SQUAREmPURPLE SQUAREnBROWN SQUARE",
    "1f7f0:sHEAVY EQUALS.;1f800:r=,&#%@&HEADbtUP,&#%@&HEADbr),&#%@&HEADbuDOWN,&#%@&HEADbt=,&#MEDIUM@&HEAD",
    "buUP,&#MEDIUM@&HEADbs),&#MEDIUM@&HEADbvDOWN,&#MEDIUM@&HEADbu=,&#LARGE@&HEADbtUP,&#LARGE@&HEADbr),&#LARGE@&HEAD",
    "buDOWN,&#LARGE@&HEAD;1f810:bt=,&#% EQUILATERAL&HEADbwUP,&#% EQUILATERAL&HEADbu),&#% EQUILATERAL&HEAD",
    "bxDOWN,&#% EQUILATERAL&HEADbw=,&#EQUILATERAL&HEADbqUP,&#EQUILATERAL&HEADbo),&#EQUILATERAL&HEAD",
    "brDOWN,&#EQUILATERAL&HEADbqHEAVY =,&#EQUILATERAL&HEADbqUP,&#EQUILATERAL&HEADbo),&#EQUILATERAL&HEAD",
    "brDOWN,&#EQUILATERAL&HEADbq=,&#LARGE EQUILATERAL&HEADbwUP,&#LARGE EQUILATERAL&HEADbu),&#LARGE EQUILATERAL&HEAD",
    "bxDOWN,&#LARGE EQUILATERAL&HEADcc=,@-HEADED&#NARROW SHAFTbxUP,@-HEADED&#NARROW SHAFTbv),@-HEADED&#NARROW SHAFT",
    "byDOWN,@-HEADED&#NARROW SHAFTbx=,@-HEADED&#MEDIUM SHAFTbxUP,@-HEADED&#MEDIUM SHAFTbv),@-HEADED&#MEDIUM SHAFT",
    "byDOWN,@-HEADED&#MEDIUM SHAFTbx=,@-HEADED&#BOLD SHAFTbvUP,@-HEADED&#BOLD SHAFTbt),@-HEADED&#BOLD SHAFT",
    "bwDOWN,@-HEADED&#BOLD SHAFTbv=,@-HEADED&#HEAVY SHAFTbwUP,@-HEADED&#HEAVY SHAFTbu),@-HEADED&#HEAVY SHAFT",
    "bxDOWN,@-HEADED&#HEAVY SHAFTbw=,@-HEADED&#VERY HEAVY SHAFTcbUP,@-HEADED&#VERY HEAVY SHAFT",
    "bz),@-HEADED&#VERY HEAVY SHAFTccDOWN,@-HEADED&#VERY HEAVY SHAFTcb=, FINGER-POST&bbUP, FINGER-POST&",
    "z), FINGER-POST&bcDOWN, FINGER-POST&bb=, SQUARED&xUP, SQUARED&v), SQUARED&yDOWN, SQUARED&x=, COMPRESSED&",
    "baUP, COMPRESSED&y), COMPRESSED&bbDOWN, COMPRESSED&ba=, HEAVY COMPRESSED&bgUP, HEAVY COMPRESSED&",
    "be), HEAVY COMPRESSED&bhDOWN, HEAVY COMPRESSED&bg=, HEAVY&vUP, HEAVY&t), HEAVY&wDOWN, HEAVY&",
    "1f850:v=, SANS-SERIF&baUP, SANS-SERIF&y), SANS-SERIF&bbDOWN, SANS-SERIF&baNORTH WEST SANS-SERIF&",
    "vEAST SANS-SERIF&bbSOUTH EAST SANS-SERIF&vWEST SANS-SERIF&bb= ) SANS-SERIF&bbUP DOWN SANS-SERIF&",
    "1f860:yWIDE-HEADED =, LIGHT BARB&baUP, LIGHT BARB&y), LIGHT BARB&bbDOWN, LIGHT BARB&baNORTH WEST LIGHT BARB&",
    "vEAST LIGHT BARB&bbSOUTH EAST LIGHT BARB&vWEST LIGHT BARB&bb=, BARB&uUP, BARB&s), BARB&vDOWN, BARB&",
    "uNORTH WEST BARB&pEAST BARB&vSOUTH EAST BARB&pWEST BARB&v=, MEDIUM BARB&bbUP, MEDIUM BARB&z), MEDIUM BARB&",
    "bcDOWN, MEDIUM BARB&bbNORTH WEST MEDIUM BARB&wEAST MEDIUM BARB&bcSOUTH EAST MEDIUM BARB&wWEST MEDIUM BARB&",
    "bc=, HEAVY BARB&baUP, HEAVY BARB&y), HEAVY BARB&bbDOWN, HEAVY BARB&baNORTH WEST HEAVY BARB&vEAST HEAVY BARB&",
    "bbSOUTH EAST HEAVY BARB&vWEST HEAVY BARB&bb=, VERY HEAVY BARB&bfUP, VERY HEAVY BARB&bd), VERY HEAVY BARB&",
    "bgDOWN, VERY HEAVY BARB&bfNORTH WEST VERY HEAVY BARB&baEAST VERY HEAVY BARB&bgSOUTH EAST VERY HEAVY BARB&",
    "baWEST VERY HEAVY BARB&;1f890:bs=,@&HEADbcUP,@&HEADba),@&HEADbdDOWN,@&HEADbc=, WHITE& WITHIN@&HEAD",
    "bvUP, WHITE& WITHIN@&HEADbt), WHITE& WITHIN@&HEADbwDOWN, WHITE& WITHIN@&HEADbv=,&#NOTCHED TAIL",
    "bhUP,&#NOTCHED TAILbf),&#NOTCHED TAILbiDOWN,&#NOTCHED TAILbhHEAVY& SHAFT WIDTH ONEdTWO THIRDSkONE HALFeTHIRD",
    "bh=, BOTTOM-SHADED WHITE&bj), BOTTOM SHADED WHITE&bk=, TOP SHADED WHITE&bg), TOP SHADED WHITE&",
    "bh=, =-SHADED WHITE&bh), )-SHADED WHITE&bj=, )-SHADED WHITE&bi), =-SHADED WHITE&",
    "bi=, BACK-TILTED SHADOWED WHITE&bq), BACK-TILTED SHADOWED WHITE&br=, FRONT-TILTED SHADOWED WHITE&",
    "br), FRONT-TILTED SHADOWED WHITE&bsWHITE& SHAFT WIDTH ONEdTWO THIRDS;1f900:biCIRCLED CROSS(EE#FOUR DOTS",
    "jTWO DOTSpEu= HALF CIRCLE#FOUR DOTSjTHREE DOTSjWO DOTSiDOTkE;1f90d:qWHITE HEART;1f912:lFACE#THERMOMETER",
    "1f915:lHEAD-BANDAGE;1f91a:wRAISED BACK OF HAND;1f920:tFACE#COWBOY HAT;1f926:pPALM",
    "1f928:eWITH ONE EYEBROW RAISED;1f92b:sFINGER COVERING CLOSED LIPS",
    "1f92d:blSMILING FACE#SMILING EYES*HAND COVERING MOUTHccFACE#OPEN MOUTH VOMITING;1f938:bdPERSON DOING CARTWHEEL",
    "1f970:wSMILING FACE#SMILING EYES*THREE HEARTS;1f972:bdTEARwFACE#PARTY HORN*PARTY HATyUNEVEN EYES*WAVY MOUTH",
    "1f979:bfHOLDING BACK TEARSsWITH PLEADING EYES;1f9d0:nMONOCLE;1f9d5:rPERSON#HEADSCARFoIN STEAMY ROOMoCLIMBING",
    "iIN LOTUS POSITION;1fa00:yNEUTRAL CHESS KINGeQUEENfROOKeBISHOPgKNIGHTgPAWN",
    "sWHITE CHESS KNIGHT ROTATED FORTY-FIVE DEGREESbtBLACK CHESS KNIGHT ROTATED FORTY-FIVE DEGREES",
    "btNEUTRAL CHESS KNIGHT ROTATED FORTY-FIVE DEGREESbvWHITE CHESS KING ROTATED NINETY DEGREES",
    "bbQUEEN ROTATED NINETY DEGREESbcROOK ROTATED NINETY DEGREESbbBISHOP ROTATED NINETY DEGREES",
    "bdKNIGHT ROTATED NINETY DEGREESbdPAWN ROTATED NINETY DEGREESbnBLACK CHESS KING ROTATED NINETY DEGREES",
    "bbQUEEN ROTATED NINETY DEGREESbcROOK ROTATED NINETY DEGREESbbBISHOP ROTATED NINETY DEGREES",
    "bdKNIGHT ROTATED NINETY DEGREESbdPAWN ROTATED NINETY DEGREESbnNEUTRAL CHESS KING ROTATED NINETY DEGREES",
    "bbQUEEN ROTATED NINETY DEGREESbcROOK ROTATED NINETY DEGREESbbBISHOP ROTATED NINETY DEGREES",
    "bdKNIGHT ROTATED NINETY DEGREESbdPAWN ROTATED NINETY DEGREES",
    "bpWHITE CHESS KNIGHT ROTATED ONE HUNDRED THIRTY-FIVE DEGREES",
    "cgBLACK CHESS KNIGHT ROTATED ONE HUNDRED THIRTY-FIVE DEGREES",
    "cgNEUTRAL CHESS KNIGHT ROTATED ONE HUNDRED THIRTY-FIVE DEGREESciWHITE CHESS TURNED KINGeQUEENfROOKeBISHOP",
    "gKNIGHTgPAWNxBLACK CHESS TURNED KINGeQUEENfROOKeBISHOPgKNIGHTgPAWNxNEUTRAL CHESS TURNED KINGeQUEENfROOKeBISHOP",
    "gKNIGHTgPAWNzWHITE CHESS KNIGHT ROTATED TWO HUNDRED TWENTY-FIVE DEGREES",
    "cgBLACK CHESS KNIGHT ROTATED TWO HUNDRED TWENTY-FIVE DEGREES",
    "cgNEUTRAL CHESS KNIGHT ROTATED TWO HUNDRED TWENTY-FIVE DEGREES",
    "ciWHITE CHESS KING ROTATED TWO HUNDRED SEVENTY DEGREESboQUEEN ROTATED TWO HUNDRED SEVENTY DEGREES",
    "bpROOK ROTATED TWO HUNDRED SEVENTY DEGREESboBISHOP ROTATED TWO HUNDRED SEVENTY DEGREES",
    "bqKNIGHT ROTATED TWO HUNDRED SEVENTY DEGREESbqPAWN ROTATED TWO HUNDRED SEVENTY DEGREES",
    "caBLACK CHESS KING ROTATED TWO HUNDRED SEVENTY DEGREESboQUEEN ROTATED TWO HUNDRED SEVENTY DEGREES",
    "bpROOK ROTATED TWO HUNDRED SEVENTY DEGREESboBISHOP ROTATED TWO HUNDRED SEVENTY DEGREES",
    "bqKNIGHT ROTATED TWO HUNDRED SEVENTY DEGREESbqPAWN ROTATED TWO HUNDRED SEVENTY DEGREES",
    "caNEUTRAL CHESS KING ROTATED TWO HUNDRED SEVENTY DEGREESboQUEEN ROTATED TWO HUNDRED SEVENTY DEGREES",
    "bpROOK ROTATED TWO HUNDRED SEVENTY DEGREESboBISHOP ROTATED TWO HUNDRED SEVENTY DEGREES",
    "bqKNIGHT ROTATED TWO HUNDRED SEVENTY DEGREESbqPAWN ROTATED TWO HUNDRED SEVENTY DEGREES",
    "ccWHITE CHESS KNIGHT ROTATED THREE HUNDRED FIFTEEN DEGREES",
    "ceBLACK CHESS KNIGHT ROTATED THREE HUNDRED FIFTEEN DEGREES",
    "ceNEUTRAL CHESS KNIGHT ROTATED THREE HUNDRED FIFTEEN DEGREEScgWHITE CHESS EQUIHOPPERwBLACK CHESS EQUIHOPPER",
    "wNEUTRAL CHESS EQUIHOPPERyWHITE CHESS EQUIHOPPER ROTATED NINETY DEGREES",
    "btBLACK CHESS EQUIHOPPER ROTATED NINETY DEGREESbtNEUTRAL CHESS EQUIHOPPER ROTATED NINETY DEGREES",
    "bvWHITE CHESS KNIGHT-QUEENfROOKeBISHOPzBLACK CHESS KNIGHT-QUEENfROOKeBISHOP;1fa60:zXIANGQI RED GENERALhMANDARIN",
    "iELEPHANTiHORSEfCHARIOTgANNONgSOLDIERlBLACK GENERALhMANDARINiELEPHANTiHORSEfCHARIOTgANNONgSOLDIER",
    "1fa98:vLONG DRUM;1fab9:jEMPTY NEST;1fac5:kPERSON#CROWN;1fae2:rFACE#OPEN EYES*HAND OVER MOUTHbdPEEKING EYE",
    "lDIAGONAL MOUTH;1faf1:y), HANDp=, HAND;1fb00:oBLOCK SEXTANT-1b2b12c3b13c23c123d4b14c24c124d34c134d234d1234e5b15",
    "c25c125d35c235d1235e45c145d245d1245e345d1345e2345e12345f6b16c26c126d36c136d236d1236e46c146c246e346d1346e2346",
    "e12346f56c156d256d1256e356d1356e2356e12356f456d1456e2456e12456f3456e13456f23456",
    "tLOWER = BLOCK DIAGONAL LOWER MIDDLE = TO LOWER CENTREg)bgUPPER MIDDLE = TO LOWER CENTREg)ba= TO LOWER CENTRE",
    "bu) BLOCK DIAGONAL UPPER MIDDLE = TO UPPER CENTREg)bgLOWER MIDDLE = TO UPPER CENTREg)ba= TO UPPER CENTRE",
    "uMIDDLE = TO UPPER MIDDLE )bhCENTRE TO LOWER MIDDLE )bc= TO LOWER MIDDLE )baCENTRE TO UPPER MIDDLE )",
    "bc= TO UPPER MIDDLE )baCENTRE TO UPPER )bw= BLOCK DIAGONAL UPPER CENTRE TO UPPER MIDDLE )bc= TO UPPER MIDDLE )",
    "baCENTRE TO LOWER MIDDLE )bc= TO LOWER MIDDLE )baCENTRE TO LOWER )vMIDDLE = TO LOWER MIDDLE )",
    "cnUPPER ) BLOCK DIAGONAL LOWER MIDDLE = TO LOWER CENTREg)bgUPPER MIDDLE = TO LOWER CENTREg)ba= TO LOWER CENTRE",
    "bv= BLOCK DIAGONAL UPPER MIDDLE = TO UPPER CENTREg)bgLOWER MIDDLE = TO UPPER CENTREg)ba= TO UPPER CENTRE",
    "uMIDDLE = TO UPPER MIDDLE )bhCENTRE TO LOWER MIDDLE )bc= TO LOWER MIDDLE )baCENTRE TO UPPER MIDDLE )",
    "bc= TO UPPER MIDDLE )baCENTRE TO UPPER )bv) BLOCK DIAGONAL UPPER CENTRE TO UPPER MIDDLE )bc= TO UPPER MIDDLE )",
    "baCENTRE TO LOWER MIDDLE )bc= TO LOWER MIDDLE )baCENTRE TO LOWER )vMIDDLE = TO LOWER MIDDLE )",
    "ciAND )*LOWER TRIANGULAR THREE QUARTERS BLOCK;1fb6a:bv=*LOWER TRIANGULAR THREE QUARTERS BLOCK",
    "1fb6d:byTRIANGULAR ONE QUARTER BLOCK;1fb6f:biLOWER TRIANGULAR ONE QUARTER BLOCK",
    "1fb76:biHORIZONTAL ONE EIGHTH BLOCK-2b3b4b5b6b7;1fb80:bdUPPER*LOWER ONE EIGHTH BLOCK",
    "bgHORIZONTAL ONE EIGHTH BLOCK-1358bgUPPER ONE QUARTER BLOCKrTHREE EIGHTHS BLOCKtFIVE EIGHTHS BLOCK",
    "sTHREE QUARTERS BLOCKuSEVEN EIGHTHS BLOCK;1fb8c:z= HALF MEDIUM SHADE;1fb8e:wUPPER HALF MEDIUM SHADE",
    "xLOWER HALF MEDIUM SHADE;1fb91:xUPPER HALF BLOCK*LOWER HALF INVERSE MEDIUM SHADE",
    "bpINVERSE MEDIUM SHADE*LOWER HALF BLOCK;1fb94:ca= HALF INVERSE MEDIUM SHADE*) HALF BLOCK",
    "1fb97:bzHEAVY HORIZONTAL FILLvUPPER = TO LOWER ) FILLy) TO LOWER = FILLyAND LOWER TRIANGULAR HALF BLOCK",
    "1fb9c:bf= TRIANGULAR MEDIUM SHADEbc) TRIANGULAR MEDIUM SHADEbjLOWER ) TRIANGULAR MEDIUM SHADE",
    "bd= TRIANGULAR MEDIUM SHADEbiBOX DRAWINGS LIGHT DIAGONAL UPPER CENTRE TO MIDDLE =e)bcMIDDLE = TO LOWER CENTRE",
    "u) TO LOWER CENTREbcUPPER CENTRE TO MIDDLE = TO LOWER CENTREu) TO LOWER CENTRE",
    "bsMIDDLE = TO LOWER CENTRE TO MIDDLE )bcUPPER CENTRE TO MIDDLE )",
    "brUPPER CENTRE TO MIDDLE =*MIDDLE ) TO LOWER CENTREbl)*MIDDLE = TO LOWER CENTREbfTO LOWER CENTRE TO MIDDLE =",
    "bk= TO LOWER CENTRE TO MIDDLE )chMIDDLE = TO UPPER CENTRE TO MIDDLE ) TO LOWER CENTRE",
    "ca) TO UPPER CENTRE TO MIDDLE = TO LOWER CENTREchDIAMONDqHORIZONTAL#_ STROKE;1fbb2:by= HALF RUNNING MAN",
    "1fbb5:r,&*UPPER*LOWER ONE EIGHTH BLOCKca),&*UPPER*LOWER ONE EIGHTH BLOCKcbDOWN,&*) ONE EIGHTH BLOCK",
    "bqUP,&*) ONE EIGHTH BLOCKbo= HALF FOLDER;1fbbd:qNEGATIVE DIAGONAL CROSSfMIDDLE ) TO LOWER CENTREbcDIAMOND",
    "zWHITE HEAVY SALTIRE#ROUNDED CORNERS;1fbc4:boNEGATIVE SQUARED QUESTION|;1fbca:beWHITE UP-POINTING CHEVRON",
    "e0020:zTAG SPACEfEXCLAMATION|qQUOTATION|oNUMBER.lDOLLAR.lPERCENT.mAMPERSANDiPOSTROPHEk= PARENTHESIS",
    "q) PARENTHESISrASTERISKiPLUS.jCOMMAfHYPHEN-MINUSmFULL STOPjSOLIDUShDIGIT ZEROeONEdTWOcHREEfFOURdIVEeSIXcEVEN",
    "fEIGHTfNINEkCOLONfSEMICOLONjLESS-THAN.oEQUALS.lGREATER-THAN.rQUESTION|nCOMMERCIAL ATnLATIN $!AbBbCbDbEbFbGbHbI",
    "bJbKbLbMbNbObPbQbRbSbTbUbVbWbXbYbZvEFT SQUARE BRACKETtREVERSE SOLIDUSoIGHT SQUARE BRACKETuCIRCUMFLEX ACCENT",
    "rLOW LINEiGRAVE ACCENTmLATIN %!AbBbCbDbEbFbGbHbIbJbKbLbMbNbObPbQbRbSbTbUbVbWbXbYbZtEFT CURLY BRACKETs_ LINE",
    "n) CURLY BRACKETtTILDE"]

end Vetted.Text.CharacterName
