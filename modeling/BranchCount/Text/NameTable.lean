/-!
Names of characters.

These are the names of Unicode 15 in their order, without those of unified ideographs and Hangul
syllables. Each is written as a change of the one before: a small letter takes characters from its
end, `a` none, `b` one and so on, and a point takes all of them; what follows is put in their place.
-/
namespace BranchCount.Text

def nameTable : List String :=
  ["ABACUSfC CURRENTiCORDIONfUNT OFiTIVATE ARABIC FORM SHAPINGtSYMMETRIC SWAPPINGzUTE ACCENTfNGLE",
    "kDDRESSED TO THE SUBJECTwHESIVE BANDAGEoI SHAKTIiLAM ALIF LENGTHENERpCAPITAL LETTER ALIFeBA",
    "bHEdCHIdDAALIeHAdEbFAcGAbBEdHAcIbJIIMeKAFcHAcPOdLAAMeMIIMeNHAcUNcYAdObPEcQAAFeRAcSHA",
    "cINNYIIYHEkTUcUbVAcWAWdYAbHEdZALrONSONANT MODIFIERsDIGIT EIGHTfFIVEdOUReNINEeONEdSEVENeIX",
    "dTHREEeWOdZEROkGEMINATE CONSONANT MODIFIERuION MARKpHAMZAfINITIAL EXCLAMATION MARK",
    "qQUESTION MARKvNASALIZATION MARKqUKTAfSMALL LETTER ALIFeBAbHEdCHIdDAALIeHAdEbFAcGAbBEdHAcI",
    "bJIIMeKAFcHAcPOdLAAMeMIIMeNHAcUNcYAdObPEcQAAFeRAcSHAcINNYIIYHEkTUcUbVAcWAWdYAbHEdZAL",
    "qVOWEL LENGTHENERuMETOSeISSION TICKETSpULTeEGEAN CHECK MARKkDRY MEASURE FIRST SUBUNIT",
    "zLIQUID MEASURE FIRST SUBUNIT.AEGEAN MEASURE SECOND SUBUNIToTHIRD SUBUNITvNUMBER EIGHT",
    "a HUNDREDhTHOUSANDjYa THOUSANDpFIFTYa THOUSANDmVEa HUNDREDhTHOUSANDmORTYa THOUSANDmUR",
    "a HUNDREDhTHOUSANDnNINEa HUNDREDhTHOUSANDjTYa THOUSANDpONEa HUNDREDhTHOUSANDmSEVENa HUNDRED",
    "hTHOUSANDjTYa THOUSANDpIXa HUNDREDhTHOUSANDjTYa THOUSANDoTENa THOUSANDlHIRTYa THOUSANDnREE",
    "a HUNDREDhTHOUSANDnWENTYa THOUSANDnOa HUNDREDhTHOUSANDtWEIGHT BASE UNITjFIRST SUBUNIT",
    "mOURTH SUBUNIToSECOND SUBUNIToTHIRD SUBUNITtORD SEPARATOR DOTdLINEyRIAL TRAMWAYnFGHANI SIGN",
    "lHOM CONSONANT SIGN MEDIAL LAbIGATING RAlRAyDIGIT EIGHTfFIVEdOUReNINEeONEdSEVENeIXdTHREEeWO",
    "dZEROkLETTER AaLTERNATE BAcGAcTAmBAbHAdCAbHAdDAbDAbHAdHAdGAbHAdHAcJAbHAdKAbHAdLAbLAdMAcNAbGA",
    "cNAcYAdPAbHAdRAcSAcTAbHAcTAbHAlNUMBER TENcWENTYnSIGN KILLERgRULAIfSECTIONgMALL SECTION",
    "rYMBOL VIjVOWEL SIGN AaAbIbMbWcEbIaIcObUaUrIRPLANEa ARRIVINGiDEPARTURErKTIESELSKABlLARM CLOCK",
    "jCHEMICAL SYMBOL FOR AIRcLEMBICfKALIa-2gUMdMALGAMgNTIMONY ORElQUA REGIAa-2hVITAEa-2iFORTIS",
    "jRSENICgSHESeURIPIGMENTlBATH OF MARYeVAPOURSoISMUTH OREkLACK SULFURlORAXa-2b3gRICKfCADUCEUS",
    "gLXcPUT MORTUUMmINNABARhOPPER ANTIMONIATElOREjROCUS OF COPPERa-2iIRONmUCIBLEa-2b3b4b5",
    "kDAY-NIGHTiISSOLVEa-2hTILLhEARTHfFIREeGOLDdUMdHALF DRAMeOUNCEjORSE DUNGiUReIRON OREa-2",
    "g-COPPER OREpLEAD OREhODESTONEjMARCASITEiERCURY SUBLIMATEa-2b3sONTHfNIGHTdTREfOIL",
    "dPHILOSOPHERS SULFURsOT ASHEShWDERaED BRICKnRECIPITATEkURIFYeTREFACTIONmQUICK LIMEhNTESSENCE",
    "mREALGARa-2hGULUSa OF ANTIMONYa-2kIRONi-2b3b4hTORTfOCK SALTa-2lSAL-AMMONIACjTa OF ANTIMONY",
    "iCOPPER ANTIMONIATEzCEPTER OF JOVEoILVERfOAPdPIRITfTARRED TRIDENTnRATUM SUPER STRATUMa-2",
    "wUBLIMATE OF ANTIMONYiCOPPERgSALT OF ANTIMONYiCOPPERtIONjLFURgTARTARa-2hIN OREeCTUREhRIDENT",
    "gUTTYfURINEfVERDIGRISiINEGARa OF ANTIMONYm-2b3hTRIOLa-2jWATERdXxEF SYMBOLiMBICfIEN MONSTER",
    "lL AROUND-PROFILEoEQUAL TOkMOST EQUAL OR EQUAL TOlTOa WITH CIRCUMFLEX ACCENT",
    ".ALTERNATE ONE-WAY LEFT WAY TRAFFIC.ALTERNATIVE KEY SYMBOLvMALGAMATION OR COPRODUCTxBULANCE",
    "hERICAN FOOTBALLpPERSANDgHORAgNATOLIAN HIEROGLYPH A001b2b3b4b5b6b7b8b9c10aAc1b2b3b4b5b6b7b8b9",
    "c20b1b2b3b4b5b6aAc7b8b9c30b1b2b3b4b5b6b7b8b9aAd40b1aAc2b3b4b5aAc6aAbBc7b8b9c50b1b2b3b4b5b6b7",
    "b8b9c60b1b2b3b4b5b6aAbBbCc7b8b9c70b1b2b3b4b5b6b7b8b9c80b1b2b3b4b5b6b7b8b9c90b1b2b3b4b5b6b7aA",
    "c8aAc9d100aAc1aAc2aAc3b4aAbBbCc5aAbBc6b7aAbBbCc8b9c10aAbBc1b2b3b4b5aAc6b7b8b9c20b1b2b3b4b5aA",
    "c6b7b8b9c30b1b2b3b4b5aAc6b7b8b9c40b1b2b3b4b5b6b7b8b9c50b1b2b3b4b5b6b7b8b9c60b1b2b3b4b5b6b7b8",
    "b9c70b1b2b3b4b5b6b7b8b9c80b1b2b3b4b5b6b7b8b9c90b1b2b3b4b5b6b7b8b9d200b1b2aAbBc3b4b5b6b7aAc8b9",
    "aAd10b1b2b3b4b5aAc6aAc7b8b9c20b1b2b3b4b5b6b7aAc8b9c30b1b2b3b4b5b6b7b8b9c40b1b2b3b4b5b6b7b8b9",
    "c50b1b2b3b4b5b6b7b8b9c60b1b2b3b4b5b6b7aAc8b9c70b1b2b3b4b5b6b7b8b9c80b1b2b3b4b5b6b7b8b9aAd90b1",
    "b2b3b4aAc5b6b7b8b9aAe300b1b2b3b4b5b6b7b8b9aAd10b1b2b3b4b5b6b7b8b9c20b1b2b3b4b5b6b7b8b9aAd30b1",
    "b2AbBbCc3b4b5b6aAbBbCc7b8b9c40b1b2b3b4b5b6b7b8b9c50b1b2b3b4b5b6b7b8b9aAd60b1b2b3b4aAc5b6b7b8",
    "aAc9c70b1aAc2b3b4b5b6b7b8b9c80b1aAc2b3 RA OR RIjAc4b5b6aAc7b8b9c90b1b2b3 EIGHTh4b5b6b7b8b9",
    "d400b1b2b3b4b5b6b7b8b9c10 BEGIN LOGOGRAM MARKuA END LOGOGRAM MARKu1b2b3b4b5b6b7b8b9c20b1b2b3",
    "b4b5b6b7b8b9c30b1b2b3b4b5b6b7b8b9c40b1b2b3b4b5b6b7b8b9c50aAc1b2b3b4b5b6b7aAc8b9c60b1b2b3b4b5",
    "b6b7b8b9c70b1b2b3b4b5b6b7b8b9c80b1b2b3b4b5b6b7b8b9c90b1b2b3b4b5b6b7d501b2b3b4b5b6b7b8b9c10b1",
    "b2b3b4b5b6b7b8b9c20b1b2b3b4b5b6b7b8b9c30uMICAL HEARToCHOReD WITH DOTkGER SYMBOLjLE",
    "a WITH S INSIDEiUNDERBARqRY FACEhSTROM SIGNkUISHED FACEmKHcTaENNA WITH BARS",
    "oICLOCKWISE CLOSED CIRCLE ARROWsONTOUR INTEGRALqDOWNWARDS AND UPWARDS OPEN CIRCLE ARROWS",
    ".ANTICLOCKWISE GAPPED CIRCLE ARROWtINTEGRATIONlOPEN CIRCLE ARROWrTOP SEMICIRCLE ARROW",
    "tRIANGLE-HEADED BOTTOM U-SHAPED ARROWvLEFT U-SHAPED ARROWtOPEN CIRCLE ARROW",
    "rRIGHT U-SHAPED ARROWuTOP U-SHAPED ARROW.APL FUNCTIONAL SYMBOL ALPHAa UNDERBARoBACKSLASH BAR",
    "nCIRCLE BACKSLASHjDIAERESISjJOTdSTARcILEfUNDERBARoOMMA BARjDEL DIAERESISjSTILEfTILDEgTA STILE",
    "fUNDERBARnIAMOND UNDERBARpOWN CARET TILDElSHOE STILEkTACK JOTdUNDERBARoWARDS VANE",
    "oEPSILON UNDERBARqGREATER-THAN DIAERESISwI-BEAMfOTAa UNDERBARnJOT DIAERESISjUNDERBAR",
    "mLEFT SHOE STILElWARDS VANEoOMEGAa UNDERBARoQUADa BACKSLASHjCIRCLEfOLONfDELaTAeIAMONDfVIDE",
    "fOWN CARETgWARDS ARROWpEQUALfGREATER-THANmJOTdLEFTWARDS ARROWnSS-THANjNOT EQUALjQUESTION",
    "iRIGHTWARDS ARROWqSLASHfUP CARETgWARDS ARROWqOTE QUADeUNDERBARoRHOcIGHTWARDS VANE",
    "pSEMICOLON UNDERBARrLASH BARiQUISH QUADkTAR DIAERESISmILE TILDElTILDE DIAERESIS",
    "pUP CARET TILDElSHOE JOTiTACK DIAERESISjJOTdOVERBARnWARDS VANEmZILDEzOLLONeSTROPHE",
    "iPROACHES THE LIMITpXIMATELY BUT NOT ACTUALLY EQUAL TOzEQUAL OR EQUAL TOlTOa OR THE IMAGE OF",
    ".AQUARIUShRABIC BASELINE ROUND DOTsCOMMAeURLY DAMMAaTANiFATHAaTANiKASRAaTANoDAMMA",
    "a ISOLATED FORMnMEDIAL FORMlWITH DOTjTANa ISOLATED FORMuTE SEPARATORnECIMAL SEPARATOR",
    "qISPUTED END OF AYAHtOUBLE RIGHT ARROWHEAD ABOVEa WITH DOT.ARABIC DOUBLED MADDA",
    "nEMPTY CENTRE HIGH STOPjLOW STOPuND OF AYAHeTEXT MARKqFATHAa ISOLATED FORMnMEDIAL FORM",
    "lWITH DOT ABOVEjRINGeTWO DOTSoTANa ISOLATED FORMvIVE POINTED STARqOOTNOTE MARKERoULL STOP",
    "jHALF MADDA OVER MADDAtMZA ABOVEfBELOWlINVERTED DAMMAoKASRAa ISOLATED FORMnMEDIAL FORM",
    "lWITH DOT BELOWpTANa ISOLATED FORMwLARGE CIRCLE BELOWmROUND DOT ABOVEfBELOW",
    "fINSIDE CIRCLE BELOW.ARABIC LEFT ARROWHEAD ABOVEfBELOWsTTER AEbFRICAN FEHdNOONeQAF",
    "a WITH THREE DOTS ABOVE.ARABIC LETTER AINa FINAL FORMkINITIAL FORMlSOLATED FORMnMEDIAL FORM",
    "lWITH THREE DOTS ABOVEfBELOWfPOINTING DOWNWARDS ABOVE.ARABIC LETTER AIN WITH TWO DOTS ABOVE",
    "fVERTICALLY ABOVE.ARABIC LETTER ALEFa FINAL FORMkISOLATED FORMnMAKSURAa FINAL FORM",
    "kISOLATED FORMvWASLAa FINAL FORMkISOLATED FORMsITH ATTACHED BOTTOM RIGHT KASRAa AND DOT ABOVE",
    "jLEFT RING.ARABIC LETTER ALEF WITH ATTACHED FATHAfKASRAfLEFT HAMZAfROUND DOToRIGHT HAMZA",
    "fROUND DOToOUND DOT ABOVEfBELOWpTOP RIGHT FATHAa AND DOT ABOVEjLEFT RING",
    ".ARABIC LETTER ALEF WITH DOT ABOVEjEXTENDED ARABIC-INDIC DIGIT THREE ABOVEkWO ABOVE",
    ".ARABIC LETTER ALEF WITH HAMZA ABOVEa FINAL FORMkISOLATED FORMtBELOWa FINAL FORM",
    "kISOLATED FORMzLEFT MIDDLE STROKEsMADDA ABOVEa FINAL FORMkISOLATED FORMzRIGHT MIDDLE STROKE",
    "a AND DOT ABOVEjLEFT RING.ARABIC LETTER ALEF WITH WAVY HAMZA ABOVEfBELOW.ARABIC LETTER BEEH",
    "a FINAL FORMkINITIAL FORMlSOLATED FORMnMEDIAL FORMoHa FINAL FORMkINITIAL FORMlSOLATED FORM",
    "nMEDIAL FORMlWITH DOT BELOW AND THREE DOTS ABOVE.ARABIC LETTER BEH WITH HAMZA ABOVE",
    "lINVERTED SMALL V BELOWwSMALL MEEM ABOVEkVa BELOWnTHREE DOTS HORIZONTALLY BELOW",
    "sPOINTING UPWARDS BELOWa AND TWO DOTS ABOVE",
    ".ARABIC LETTER BEH WITH TWO DOTS BELOW AND DOT ABOVE.ARABIC LETTER BEHEHa FINAL FORM",
    "kINITIAL FORMlSOLATED FORMnMEDIAL FORMrDADa FINAL FORMkINITIAL FORMlSOLATED FORMnMEDIAL FORM",
    "lWITH DOT BELOWqHALa FINAL FORMkISOLATED FORMrLa FINAL FORMkISOLATED FORMnWITH DOT BELOW",
    "a AND SMALL TAHxFOUR DOTS ABOVEpINVERTED SMALL V BELOWnVkRINGeTHREE DOTS ABOVE DOWNWARDS",
    "pBELOWpWO DOTS VERTICALLY BELOW AND SMALL TAH.ARABIC LETTER DDAHALa FINAL FORMkISOLATED FORM",
    "rLa FINAL FORMkISOLATED FORMrOTLESS BEHdFEHdQAFkULa FINAL FORMkISOLATED FORMqYEHa FINAL FORM",
    "kINITIAL FORMlSOLATED FORMnMEDIAL FORMqEa FINAL FORMkINITIAL FORMlSOLATED FORMnMEDIAL FORM",
    "nFARSI YEHa FINAL FORMkINITIAL FORMlSOLATED FORMnMEDIAL FORM",
    "lWITH EXTENDED ARABIC-INDIC DIGIT FOUR BELOWkTHREE ABOVEkWO ABOVE",
    ".ARABIC LETTER FARSI YEH WITH INVERTED VkTHREE DOTS ABOVEpWO DOTS ABOVE.ARABIC LETTER FEH",
    "a FINAL FORMkINITIAL FORMlSOLATED FORMnMEDIAL FORMlWITH DOT BELOWa AND THREE DOTS ABOVE",
    ".ARABIC LETTER FEH WITH DOT MOVED BELOWpTHREE DOTS BELOWfPOINTING UPWARDS BELOW",
    ".ARABIC LETTER FEH WITH TWO DOTS BELOWxGAFa FINAL FORMkINITIAL FORMlSOLATED FORMnMEDIAL FORM",
    "lWITH INVERTED STROKEpRINGeTHREE DOTS ABOVEpWO DOTS BELOWwHAINa FINAL FORMkINITIAL FORM",
    "lSOLATED FORMnMEDIAL FORMlWITH DOT BELOWjTHREE DOTS ABOVE.ARABIC LETTER GRAFdUEHa FINAL FORM",
    "kINITIAL FORMlSOLATED FORMnMEDIAL FORMqHAHa FINAL FORMkINITIAL FORMlSOLATED FORMnMEDIAL FORM",
    "lWITH EXTENDED ARABIC-INDIC DIGIT FOUR BELOW.ARABIC LETTER HAH WITH HAMZA ABOVE",
    "lINVERTED SMALL V BELOWwSMALL ARABIC LETTER TAH ABOVEeND TWO DOTSmBELOW",
    ".ARABIC LETTER HAH WITH THREE DOTS ABOVEfPOINTING UPWARDS BELOW",
    ".ARABIC LETTER HAH WITH TWO DOTS ABOVEfVERTICAL ABOVE.ARABIC LETTER HAMZAa ISOLATED FORMsEH",
    "a DOACHASHMEEa FINAL FORMkINITIAL FORMlSOLATED FORMnMEDIAL FORMxFINAL FORMkGOALa FINAL FORM",
    "kINITIAL FORMlSOLATED FORMnMEDIAL FORMlWITH HAMZA ABOVEvINITIAL FORMlSOLATED FORMnMEDIAL FORM",
    "lWITH INVERTED VkYEH ABOVEa FINAL FORMkISOLATED FORM.ARABIC LETTER HIGH HAMZAa ALEFeWAWdYEH",
    "oJEEMa FINAL FORMkINITIAL FORMlSOLATED FORMnMEDIAL FORMlWITH THREE DOTS ABOVEfBELOW",
    "pWO DOTS ABOVEwHa FINAL FORMkISOLATED FORMrKAFa FINAL FORMkINITIAL FORMlSOLATED FORM",
    "nMEDIAL FORMlWITH DOT ABOVEfBELOWjRINGeTHREE DOTS BELOWpWO DOTS ABOVEvSHMIRI YEHlEHEH",
    "a FINAL FORMkINITIAL FORMlSOLATED FORMnMEDIAL FORMlWITH DOT ABOVEjSMALL VhTHREE DOTS ABOVE",
    "fBELOWfPOINTING UPWARDS BELOW.ARABIC LETTER KEHEH WITH TWO DOTS ABOVEfVERTICALLY BELOW",
    ".ARABIC LETTER KHAHa FINAL FORMkINITIAL FORMlSOLATED FORMnMEDIAL FORMpIRGHIZ OEa FINAL FORM",
    "kISOLATED FORMqYUa FINAL FORMkISOLATED FORMyLAMa FINAL FORMkINITIAL FORMlSOLATED FORM",
    "nMEDIAL FORMlWITH BARdDOT ABOVEhUBLE BARkSMALL ARABIC LETTER TAH ABOVExVhTHREE DOTS ABOVE",
    "fBELOWyOW ALEFiMARKdEEMa FINAL FORMkINITIAL FORMlSOLATED FORMnMEDIAL FORMlWITH DOT ABOVE",
    "fBELOWjTHREE DOTS ABOVE.ARABIC LETTER NGa FINAL FORMkINITIAL FORMlSOLATED FORMnMEDIAL FORM",
    "mOEHa FINAL FORMkINITIAL FORMlSOLATED FORMnMEDIAL FORMqOONa FINAL FORMkGHUNNAa FINAL FORM",
    "kISOLATED FORMuINITIAL FORMlSOLATED FORMnMEDIAL FORMlWITH DOT BELOWjINVERTED SMALL VqRING",
    "eSMALL TAHdVhTHREE DOTS ABOVEpWO DOTS BELOWxYEHa FINAL FORMkINITIAL FORMlSOLATED FORM",
    "nMEDIAL FORMqOEa FINAL FORMkISOLATED FORMqPEHa FINAL FORMkINITIAL FORMlSOLATED FORM",
    "nMEDIAL FORMlWITH SMALL MEEM ABOVEkVnEHa FINAL FORMkINITIAL FORMlSOLATED FORMnMEDIAL FORMrQAF",
    "a FINAL FORMkINITIAL FORMlSOLATED FORMnMEDIAL FORMlWITH DOT ABOVEfBELOWa AND NO DOTS ABOVE",
    ".ARABIC LETTER QAF WITH THREE DOTS ABOVEzREHa FINAL FORMkISOLATED FORMnWITH DOT BELOW",
    "a AND DOT ABOVExFOUR DOTS ABOVEpHAMZA ABOVElINVERTED VkLOOPeRING",
    "eSMALL ARABIC LETTER TAH AND TWO DOTS.ARABIC LETTER REH WITH SMALL NOON ABOVEkVa BELOWmTROKE",
    "gTWO DOTS ABOVEfVERTICALLY ABOVE.ARABIC LETTER RNOONa FINAL FORMkINITIAL FORMlSOLATED FORM",
    "nMEDIAL FORMqOHINGYA YEHlREHa FINAL FORMkISOLATED FORMsSADa FINAL FORMkINITIAL FORM",
    "lSOLATED FORMnMEDIAL FORMlWITH THREE DOTS ABOVEfBELOWpWO DOTS BELOWwEENa FINAL FORM",
    "kINITIAL FORMlSOLATED FORMnMEDIAL FORMlWITH DOT BELOW AND DOT ABOVE",
    "xEXTENDED ARABIC-INDIC DIGIT FOUR ABOVE.ARABIC LETTER SEEN WITH FOUR DOTS ABOVEpINVERTED V",
    "kSMALL ARABIC LETTER TAH AND TWO DOTS.ARABIC LETTER SEEN WITH THREE DOTS BELOW",
    "a AND THREE DOTS ABOVE.ARABIC LETTER SEEN WITH TWO DOTS VERTICALLY ABOVE.ARABIC LETTER SHEEN",
    "a FINAL FORMkINITIAL FORMlSOLATED FORMnMEDIAL FORMlWITH DOT BELOWtTRAIGHT WAWlUPERSCRIPT ALEF",
    "pWASH KAFjTAHa FINAL FORMkINITIAL FORMlSOLATED FORMnMEDIAL FORMlWITH DOT BELOW",
    "jTHREE DOTS ABOVEfBELOWpWO DOTS ABOVEwCHEHa FINAL FORMkINITIAL FORMlSOLATED FORMnMEDIAL FORM",
    "lWITH DOT ABOVEjSMALL VnEHa FINAL FORMkINITIAL FORMlSOLATED FORMnMEDIAL FORMsEHa FINAL FORM",
    "kINITIAL FORMlSOLATED FORMnMARBUTAa FINAL FORMkGOALeISOLATED FORMuEDIAL FORMlWITH RING",
    "eSMALL TEH ABOVEjVhTHREE DOTS ABOVE DOWNWARDS.ARABIC LETTER TEHEHa FINAL FORMkINITIAL FORM",
    "lSOLATED FORMnMEDIAL FORMqHALa FINAL FORMkISOLATED FORMqEHa FINAL FORMkINITIAL FORM",
    "lSOLATED FORMnMEDIAL FORMoIN YEHhTEHa FINAL FORMkINITIAL FORMlSOLATED FORMnMEDIAL FORM",
    "lWITH SMALL VnEHa FINAL FORMkINITIAL FORMlSOLATED FORMnMEDIAL FORMsUa FINAL FORM",
    "kISOLATED FORMnWITH HAMZA ABOVEa ISOLATED FORM",
    ".ARABIC LETTER UIGHUR KAZAKH KIRGHIZ ALEF MAKSURA INITIAL FORMmMEDIAL FORM.ARABIC LETTER VE",
    "a FINAL FORMkISOLATED FORMoHa FINAL FORMkINITIAL FORMlSOLATED FORMnMEDIAL FORMpWAW",
    "a FINAL FORMkISOLATED FORMnWITH DOT ABOVEfWITHINkEXTENDED ARABIC-INDIC DIGIT THREE ABOVE",
    "kWO ABOVE.ARABIC LETTER WAW WITH HAMZA ABOVEa FINAL FORMkISOLATED FORMzRINGeTWO DOTS ABOVE",
    "xYEHa BARREEa FINAL FORMkISOLATED FORMnWITH EXTENDED ARABIC-INDIC DIGIT THREE ABOVEkWO ABOVE",
    ".ARABIC LETTER YEH BARREE WITH HAMZA ABOVEa FINAL FORMkISOLATED FORM",
    ".ARABIC LETTER YEH FINAL FORMkINITIAL FORMlSOLATED FORMnMEDIAL FORMlWITH HAMZA ABOVE",
    "a FINAL FORMkINITIAL FORMlSOLATED FORMnMEDIAL FORMxSMALL VhTAILdHREE DOTS BELOW",
    "pWO DOTS BELOW AND DOT ABOVEjHAMZA ABOVElSMALL NOON ABOVE.ARABIC LETTER YUa FINAL FORM",
    "kISOLATED FORMqZAHa FINAL FORMkINITIAL FORMlSOLATED FORMnMEDIAL FORMnINa FINAL FORM",
    "kISOLATED FORMnWITH INVERTED V ABOVE.ARABIC LIGATURE AIN WITH ALEF MAKSURA FINAL FORM",
    "kISOLATED FORM.ARABIC LIGATURE AIN WITH JEEM INITIAL FORMlSOLATED FORMnWITH MEEM FINAL FORM",
    "kINITIAL FORM.ARABIC LIGATURE AIN WITH MEEM INITIAL FORMlSOLATED FORM",
    "nWITH ALEF MAKSURA FINAL FORMxMEEM FINAL FORMkINITIAL FORMrYEH FINAL FORMyYEH FINAL FORM",
    "kISOLATED FORMzKBAR ISOLATED FORMsLAYHAA AS-SALAAMmE ISOLATED FORMpI AS-SALAAMbTU WAS-SALAAM",
    "wM AS-SALAAMkAA AS-SALAAMrEF MAKSURA WITH SUPERSCRIPT ALEF FINAL FORMkISOLATED FORM",
    ".ARABIC LIGATURE ALEF WITH FATHATAN FINAL FORMkISOLATED FORM",
    ".ARABIC LIGATURE ALLAH ISOLATED FORMsZZA WA JALLmBEH WITH ALEF MAKSURA FINAL FORM",
    "kISOLATED FORM.ARABIC LIGATURE BEH WITH HAH INITIAL FORMlSOLATED FORMnWITH YEH FINAL FORM",
    "wEH INITIAL FORMmMEDIAL FORMpJEEM INITIAL FORMlSOLATED FORMsKHAH INITIAL FORMlSOLATED FORM",
    "nWITH YEH FINAL FORMyMEEM FINAL FORMkINITIAL FORMlSOLATED FORMnMEDIAL FORMqNOON FINAL FORM",
    "pREH FINAL FORMoYEH FINAL FORMkISOLATED FORMrZAIN FINAL FORMxISMILLAH AR-RAHMAN AR-RAHEEM",
    ".ARABIC LIGATURE DAD WITH ALEF MAKSURA FINAL FORMkISOLATED FORM",
    ".ARABIC LIGATURE DAD WITH HAH INITIAL FORMlSOLATED FORMnWITH ALEF MAKSURA FINAL FORM",
    "xYEH FINAL FORMxJEEM INITIAL FORMlSOLATED FORMsKHAH INITIAL FORMlSOLATED FORM",
    "nWITH MEEM FINAL FORMkINITIAL FORM.ARABIC LIGATURE DAD WITH MEEM INITIAL FORMlSOLATED FORM",
    "sREH FINAL FORMkISOLATED FORMrYEH FINAL FORMkISOLATED FORM",
    ".ARABIC LIGATURE FEH WITH ALEF MAKSURA FINAL FORMkISOLATED FORM",
    ".ARABIC LIGATURE FEH WITH HAH INITIAL FORMlSOLATED FORMrJEEM INITIAL FORMlSOLATED FORM",
    "sKHAH INITIAL FORMlSOLATED FORMnWITH MEEM FINAL FORMkINITIAL FORM",
    ".ARABIC LIGATURE FEH WITH MEEM INITIAL FORMlSOLATED FORMnWITH YEH FINAL FORMyYEH FINAL FORM",
    "kISOLATED FORM.ARABIC LIGATURE GHAIN WITH ALEF MAKSURA FINAL FORMkISOLATED FORM",
    ".ARABIC LIGATURE GHAIN WITH JEEM INITIAL FORMlSOLATED FORMsMEEM INITIAL FORMlSOLATED FORM",
    "nWITH ALEF MAKSURA FINAL FORMxMEEM FINAL FORMpYEH FINAL FORMyYEH FINAL FORMkISOLATED FORM",
    ".ARABIC LIGATURE HAH WITH ALEF MAKSURA FINAL FORMkISOLATED FORM",
    ".ARABIC LIGATURE HAH WITH JEEM INITIAL FORMlSOLATED FORMnWITH YEH FINAL FORM",
    "yMEEM INITIAL FORMlSOLATED FORMnWITH ALEF MAKSURA FINAL FORMxYEH FINAL FORMyYEH FINAL FORM",
    "kISOLATED FORMzEH WITH ALEF MAKSURA ISOLATED FORM.ARABIC LIGATURE HEH WITH JEEM INITIAL FORM",
    "lSOLATED FORMsMEEM INITIAL FORMlSOLATED FORMnWITH JEEM INITIAL FORMrMEEM INITIAL FORM",
    ".ARABIC LIGATURE HEH WITH SUPERSCRIPT ALEF INITIAL FORM",
    ".ARABIC LIGATURE HEH WITH YEH ISOLATED FORM.ARABIC LIGATURE JALLAJALALOUHOU",
    "oEEM WITH ALEF MAKSURA FINAL FORMkISOLATED FORM.ARABIC LIGATURE JEEM WITH HAH INITIAL FORM",
    "lSOLATED FORMnWITH ALEF MAKSURA FINAL FORMxYEH FINAL FORMxMEEM INITIAL FORMlSOLATED FORM",
    "nWITH ALEF MAKSURA FINAL FORMxHAH FINAL FORMkINITIAL FORMqYEH FINAL FORMyYEH FINAL FORM",
    "kISOLATED FORM.ARABIC LIGATURE KAF WITH ALEF FINAL FORMkISOLATED FORMnMAKSURA FINAL FORM",
    "kISOLATED FORM.ARABIC LIGATURE KAF WITH HAH INITIAL FORMlSOLATED FORMrJEEM INITIAL FORM",
    "lSOLATED FORMsKHAH INITIAL FORMlSOLATED FORMsLAM FINAL FORMkINITIAL FORMlSOLATED FORM",
    "nMEDIAL FORMpMEEM FINAL FORMkINITIAL FORMlSOLATED FORMnMEDIAL FORMlWITH MEEM FINAL FORM",
    "kINITIAL FORMrYEH FINAL FORMyYEH FINAL FORMkISOLATED FORMzHAH WITH ALEF MAKSURA FINAL FORM",
    "kISOLATED FORM.ARABIC LIGATURE KHAH WITH HAH ISOLATED FORMrJEEM INITIAL FORMlSOLATED FORM",
    "sMEEM INITIAL FORMlSOLATED FORMsYEH FINAL FORMkISOLATED FORM",
    ".ARABIC LIGATURE LAM WITH ALEF FINAL FORMkISOLATED FORMnMAKSURA FINAL FORMkISOLATED FORM",
    "vWITH HAMZA ABOVE FINAL FORMkISOLATED FORMtBELOW FINAL FORMkISOLATED FORM",
    "zMADDA ABOVE FINAL FORMkISOLATED FORM.ARABIC LIGATURE LAM WITH HAH INITIAL FORMlSOLATED FORM",
    "nWITH ALEF MAKSURA FINAL FORMxMEEM FINAL FORMkINITIAL FORMrYEH FINAL FORMwEH INITIAL FORM",
    "qJEEM INITIAL FORMlSOLATED FORMnWITH JEEM FINAL FORMkINITIAL FORMrMEEM FINAL FORM",
    "kINITIAL FORMrYEH FINAL FORMyKHAH INITIAL FORMlSOLATED FORMnWITH MEEM FINAL FORMkINITIAL FORM",
    ".ARABIC LIGATURE LAM WITH MEEM FINAL FORMkINITIAL FORMlSOLATED FORMnMEDIAL FORM",
    "lWITH HAH FINAL FORMkINITIAL FORMqYEH FINAL FORMyYEH FINAL FORMkISOLATED FORM",
    ".ARABIC LIGATURE MEEM WITH ALEF FINAL FORMkMAKSURA ISOLATED FORM",
    ".ARABIC LIGATURE MEEM WITH HAH INITIAL FORMlSOLATED FORMnWITH JEEM INITIAL FORM",
    "rMEEM INITIAL FORMrYEH FINAL FORMxJEEM INITIAL FORMlSOLATED FORMnWITH HAH INITIAL FORM",
    "qKHAH INITIAL FORMrMEEM INITIAL FORMrYEH FINAL FORMyKHAH INITIAL FORMlSOLATED FORM",
    "nWITH JEEM INITIAL FORMrMEEM INITIAL FORMrYEH FINAL FORMyMEEM FINAL FORMkINITIAL FORM",
    "lSOLATED FORMnWITH YEH FINAL FORMyYEH ISOLATED FORM.ARABIC LIGATURE MOHAMMAD ISOLATED FORM",
    "wNOON WITH ALEF MAKSURA FINAL FORMkISOLATED FORM.ARABIC LIGATURE NOON WITH HAH INITIAL FORM",
    "lSOLATED FORMnWITH ALEF MAKSURA FINAL FORMxMEEM INITIAL FORMrYEH FINAL FORMwEH INITIAL FORM",
    "mMEDIAL FORMpJEEM INITIAL FORMlSOLATED FORMnWITH ALEF MAKSURA FINAL FORMxHAH FINAL FORM",
    "kINITIAL FORMqMEEM FINAL FORMkINITIAL FORMrYEH FINAL FORMyKHAH INITIAL FORMlSOLATED FORM",
    "sMEEM FINAL FORMkINITIAL FORMlSOLATED FORMnMEDIAL FORMlWITH ALEF MAKSURA FINAL FORM",
    "xYEH FINAL FORMyNOON FINAL FORMpREH FINAL FORMoYEH FINAL FORMkISOLATED FORMrZAIN FINAL FORM",
    "zQAF WITH ALEF MAKSURA FINAL FORMkISOLATED FORM.ARABIC LIGATURE QAF WITH HAH INITIAL FORM",
    "lSOLATED FORMrMEEM INITIAL FORMlSOLATED FORMnWITH HAH FINAL FORMkINITIAL FORMqMEEM FINAL FORM",
    "pYEH FINAL FORMyYEH FINAL FORMkISOLATED FORMyLA USED AS KORANIC STOP SIGN ISOLATED FORM",
    ".ARABIC LIGATURE QUDDISA SIRRAHoRADI ALLAAHU ANHaAAcUMaAAdNNAsHIMAHU ALLAAHhM ALLAAH",
    "oSOUL ISOLATED FORMtEH WITH SUPERSCRIPT ALEF ISOLATED FORM",
    ".ARABIC LIGATURE SAD WITH ALEF MAKSURA FINAL FORMkISOLATED FORM",
    ".ARABIC LIGATURE SAD WITH HAH INITIAL FORMlSOLATED FORMnWITH HAH FINAL FORMkINITIAL FORM",
    "qYEH FINAL FORMxKHAH INITIAL FORMrMEEM INITIAL FORMlSOLATED FORMnWITH MEEM FINAL FORM",
    "kINITIAL FORM.ARABIC LIGATURE SAD WITH REH FINAL FORMkISOLATED FORMrYEH FINAL FORM",
    "kISOLATED FORMyLAAMUHU ALAYNAAnM ISOLATED FORMqLA ISOLATED FORM",
    "nUSED AS KORANIC STOP SIGN ISOLATED FORM.ARABIC LIGATURE SALLALLAAHU ALAYHI WA-AALIH",
    "tHOU ALAYHE WASALLAMsU ALAYHI WAAALIHEE WA-SALLAM",
    ".ARABIC LIGATURE SEEN WITH ALEF MAKSURA FINAL FORMkISOLATED FORM",
    ".ARABIC LIGATURE SEEN WITH HAH INITIAL FORMlSOLATED FORMnMEDIAL FORMlWITH JEEM INITIAL FORM",
    "zEH INITIAL FORMmMEDIAL FORMpJEEM INITIAL FORMlSOLATED FORMnMEDIAL FORM",
    "lWITH ALEF MAKSURA FINAL FORMxHAH INITIAL FORM.ARABIC LIGATURE SEEN WITH KHAH INITIAL FORM",
    "lSOLATED FORMnMEDIAL FORMlWITH ALEF MAKSURA FINAL FORMxYEH FINAL FORMyMEEM INITIAL FORM",
    "lSOLATED FORMnMEDIAL FORMlWITH HAH FINAL FORMkINITIAL FORMqJEEM INITIAL FORMrMEEM FINAL FORM",
    "kINITIAL FORM.ARABIC LIGATURE SEEN WITH REH FINAL FORMkISOLATED FORMrYEH FINAL FORM",
    "kISOLATED FORM.ARABIC LIGATURE SHADDA WITH DAMMA ISOLATED FORMnMEDIAL FORMmTAN ISOLATED FORM",
    "wFATHA ISOLATED FORMnMEDIAL FORMrKASRA ISOLATED FORMnMEDIAL FORMmTAN ISOLATED FORM",
    "wSUPERSCRIPT ALEF ISOLATED FORM.ARABIC LIGATURE SHEEN WITH ALEF MAKSURA FINAL FORM",
    "kISOLATED FORM.ARABIC LIGATURE SHEEN WITH HAH FINAL FORMkINITIAL FORMlSOLATED FORM",
    "nMEDIAL FORMlWITH MEEM FINAL FORMkINITIAL FORMrYEH FINAL FORMwEH INITIAL FORMmMEDIAL FORM",
    "pJEEM FINAL FORMkINITIAL FORMlSOLATED FORMnMEDIAL FORMlWITH YEH FINAL FORMyKHAH FINAL FORM",
    "kINITIAL FORMlSOLATED FORMnMEDIAL FORMqMEEM FINAL FORMkINITIAL FORMlSOLATED FORMnMEDIAL FORM",
    "lWITH KHAH FINAL FORMkINITIAL FORMrMEEM FINAL FORMkINITIAL FORM",
    ".ARABIC LIGATURE SHEEN WITH REH FINAL FORMkISOLATED FORMrYEH FINAL FORMkISOLATED FORM",
    ".ARABIC LIGATURE SUBHAANAHU WA TAAALAAvTABAARAKA WA-TAAALAAsH WITH ALEF MAKSURA FINAL FORM",
    "kISOLATED FORM.ARABIC LIGATURE TAH WITH HAH INITIAL FORMlSOLATED FORMrMEEM INITIAL FORM",
    "lSOLATED FORMnMEDIAL FORMlWITH HAH FINAL FORMkINITIAL FORMqMEEM INITIAL FORMrYEH FINAL FORM",
    "yYEH FINAL FORMkISOLATED FORMzEH WITH ALEF MAKSURA FINAL FORMkISOLATED FORM",
    ".ARABIC LIGATURE TEH WITH HAH INITIAL FORMlSOLATED FORMnWITH JEEM FINAL FORMkINITIAL FORM",
    "rMEEM INITIAL FORMzEH INITIAL FORMmMEDIAL FORMpJEEM INITIAL FORMlSOLATED FORM",
    "nWITH ALEF MAKSURA FINAL FORMxMEEM INITIAL FORMrYEH FINAL FORMyKHAH INITIAL FORMlSOLATED FORM",
    "nWITH ALEF MAKSURA FINAL FORMxMEEM INITIAL FORMrYEH FINAL FORMyMEEM FINAL FORMkINITIAL FORM",
    "lSOLATED FORMnMEDIAL FORMlWITH ALEF MAKSURA FINAL FORMxHAH INITIAL FORMqJEEM INITIAL FORM",
    "rKHAH INITIAL FORMrYEH FINAL FORMyNOON FINAL FORMpREH FINAL FORMoYEH FINAL FORMkISOLATED FORM",
    "rZAIN FINAL FORMxHAL WITH SUPERSCRIPT ALEF ISOLATED FORM",
    ".ARABIC LIGATURE THEH WITH ALEF MAKSURA FINAL FORMkISOLATED FORM",
    ".ARABIC LIGATURE THEH WITH HEH MEDIAL FORMpJEEM ISOLATED FORMsMEEM FINAL FORMkINITIAL FORM",
    "lSOLATED FORMnMEDIAL FORMqNOON FINAL FORMpREH FINAL FORMoYEH FINAL FORMkISOLATED FORM",
    "rZAIN FINAL FORMzUIGHUR KIRGHIZ YEH WITH HAMZA ABOVE WITH ALEF MAKSURA FINAL FORM",
    "kINITIAL FORMlSOLATED FORM.ARABIC LIGATURE WASALLAM ISOLATED FORM",
    "wYEH WITH ALEF MAKSURA FINAL FORMkISOLATED FORM.ARABIC LIGATURE YEH WITH HAH INITIAL FORM",
    "lSOLATED FORMnWITH YEH FINAL FORMvMZA ABOVE WITH AE FINAL FORMkISOLATED FORMpLEF FINAL FORM",
    "kISOLATED FORMnMAKSURA FINAL FORMkISOLATED FORM",
    ".ARABIC LIGATURE YEH WITH HAMZA ABOVE WITH E FINAL FORMkINITIAL FORMlSOLATED FORM",
    "pHAH INITIAL FORMlSOLATED FORMqEH INITIAL FORMmMEDIAL FORMpJEEM INITIAL FORMlSOLATED FORM",
    "sKHAH INITIAL FORMrMEEM FINAL FORMkINITIAL FORMlSOLATED FORMnMEDIAL FORMqNOON FINAL FORM",
    "pOE FINAL FORMkISOLATED FORMqREH FINAL FORMoU FINAL FORMkISOLATED FORMpWAW FINAL FORM",
    "kISOLATED FORMrYEH FINAL FORMkISOLATED FORMqU FINAL FORMkISOLATED FORMqZAIN FINAL FORM",
    ".ARABIC LIGATURE YEH WITH HEH INITIAL FORMmMEDIAL FORMpJEEM INITIAL FORMlSOLATED FORM",
    "nWITH YEH FINAL FORMyKHAH INITIAL FORMlSOLATED FORMsMEEM FINAL FORMkINITIAL FORMlSOLATED FORM",
    "nMEDIAL FORMlWITH MEEM FINAL FORMkINITIAL FORMrYEH FINAL FORMyNOON FINAL FORMpREH FINAL FORM",
    "oYEH FINAL FORMkISOLATED FORMrZAIN FINAL FORMyZAH WITH MEEM INITIAL FORMlSOLATED FORM",
    "nMEDIAL FORM.ARABIC MADDA WAAJIBhH ABOVEkRK NOON GHUNNAlSIDEWAYS NOON GHUNNAxTHEMATICAL AIN",
    "cLEFeBEHdDADbLcOTLESS BEHdFEHdNOONeQAFjUBLE-STRUCK AINdBEHdDADbLdFEHdGHAINfHAHdJEEMeKHAHeLAM",
    "dMEEMeNOONeQAFdREHdSADcEENdHEENfTAHcEHcHALcEHeWAWdYEHdZAHbINsFEHdGHAINfHAHdINITIAL AINdBEH",
    "dDADdFEHdGHAINfHAHcEHdJEEMeKAFcHAHeLAMdMEEMeNOONeQAFdSADcEENdHEENfTEHcHEHeYEHlJEEMeKAFcHAH",
    "eLAMcOOPED AINcLEFeBEHdDADbLdFEHdGHAINfHAHcEHdJEEMeKHAHeLAMdMEEMeNOONeQAFdREHdSADcEENdHEEN",
    "fTAHcEHcHALcEHeWAWdYEHdZAHbINlMEEMeNOONeOPERATOR HAH WITH DALmMEEM WITH HAH WITH TATWEEL",
    ".ARABIC MATHEMATICAL QAFdREHdSADcEENdHEENeTRETCHED AINdBEHdDADcOTLESS BEHdFEHlFEHdGHAINfHAH",
    "cEHdJEEMeKAFcHAHeMEEMeNOONeQAFdSADcEENdHEENfTAHcEHcHEHeYEHdZAHnTAHbILED AINdDADcOTLESS NOON",
    "eQAFlGHAINfHAHdJEEMeKHAHeLAMdNOONeQAFdSADcEENdHEENfYEHjEHcHALcEHeWAWdYEHdZAHbIN",
    "rNUMBER MARK ABOVEkSIGNlOPEN DAMMATANiFATHATANiKASRATANnPERCENT SIGNlIASTRE MARK ABOVE",
    "rLACE OF SAJDAHoOETIC VERSE SIGNpUND MARK ABOVEqQUESTION MARKnRAISED ROUND DOToY",
    "cEVERSED DAMMAnIGHT ARROWHEAD ABOVEa WITH DOToBELOWuOUNDED HIGH STOP WITH FILLED CENTRE",
    ".ARABIC SEMICOLONiHADDAa ISOLATED FORMnMEDIAL FORMrIGN ALAYHE ASSALLAMpMISRA",
    "fRADI ALLAHOU ANHUpHMATULLAH ALAYHEsSAFHAdLLALLAHOU ALAYHE WASSALLAM.ARABIC SIGN SAMVATeNAH",
    "eINDHI AMPERSANDjPOSTPOSITION MENxTAKHALLUSnMALL DAMMAfFARSI YEHhTHAfHIGH AIN",
    "dDOTLESS HEAD OF KHAHuFARSI YEHiOOTNOTE MARKERpJEEMeLAM ALEFhIGATURE ALEF WITH LAM WITH YEH",
    "wQAF WITH LAM WITH ALEF MAKSURA.ARABIC SMALL HIGH LIGATURE SAD WITH LAM WITH ALEF MAKSURA",
    ".ARABIC SMALL HIGH MADDAeEEM INITIAL FORMlSOLATED FORMsNOONa WITH KASRApQAFdROUNDED ZEROmSAD",
    "cEENdIGN SAFHAkTAHcHREE DOTSkUPRIGHT RECTANGULAR ZEROyWAWcORD AL-JUZfN-NISFgR-RUBfS-SAJDA",
    "hTH-THALATHAmQIFdSAHbKTAfWAQFAkYEHa BARREE WITH TWO DOTS BELOW.ARABIC SMALL HIGH ZAHbINjKASRA",
    "fLOW MEEMeNOON WITH KASRApSEENeWAWcORD IMAALAfSHMAAMhMADDAfQASReSAKTAfTASHEELqWAWdYEH",
    "iTART OF RUB EL HIZBtUBSCRIPT ALEFmKUNa BELOWfISOLATED FORMnMEDIAL FORM",
    "pPERSCRIPT ALEF MOKHASSASzYMBOL DOT ABOVEfBELOWhUBLE VERTICAL BAR BELOWzFOUR DOTS ABOVEfBELOW",
    "pRINGeSMALL TAH ABOVEfBELOWpTHREE DOTS ABOVEfBELOWfPOINTING DOWNWARDS ABOVEfBELOW",
    ".ARABIC SYMBOL TWO DOTS ABOVEfBELOWfVERTICALLY ABOVEfBELOWzWASLA ABOVEsTAIL FRAGMENTlTWEEL",
    "a WITH FATHATAN ABOVEoOVERSTRUCK HAMZAfWAWoTWO DOTS BELOW.ARABIC THOUSANDS SEPARATOR",
    "sONE LOOP ABOVEfBELOWkONE DOT ABOVEfBELOWnTWO DOTS ABOVEfBELOWsRIPLE DOT PUNCTUATION MARK",
    ".ARABIC TURNED DAMMA BELOWsVERTICAL TAILmOWEL SIGN DOT BELOWjINVERTED SMALL V ABOVE",
    "wSMALL V ABOVEyWAVY HAMZA BELOWqZWARAKAYj-INDIC CUBE ROOTjDIGIT EIGHTfFIVEdOUReNINEeONEdSEVEN",
    "eIXdTHREEeWOdZEROkFOURTH ROOTlPER MILLE SIGNkTEN THOUSAND SIGN.ARCbIES",
    "dMENIAN ABBREVIATION MARKqPOSTROPHEkCAPITAL LETTER AYBdBENdCAbHAbEHdOcDAcECHcHbTcFEHdGHADdIM",
    "dHOcINIdJAbHEHeKEHbNdLIWNeMENdNOWdOHcPEHcIWReRAbEHdSEHcHAdTIWNdOcVEWcOcXEHdYIaWNeZAbHErOMMA",
    "fDRAM SIGNjEMPHASIS MARKmXCLAMATION MARKqFULL STOPjHYPHENgMODIFIER LETTER LEFT HALF RING",
    ".ARMENIAN QUESTION MARKnSMALL LETTER AYBdBENdCAbHAbEHdOcDAcECHcHbTcFEHdGHADdIMdHOcINIdJAbHEH",
    "eKEHbNdLIWNeMENdNOWdOHcPEHcIWReRAbEHdSEHcHAdTIWNdObURNED AYBkVEWcOcXEHdYIa WITH STROKEmWNeZA",
    "bHEjIGATURE ECH YIWNiMEN ECHdINIdNOWdXEHhVEW NOW",
    ".ARROW POINTING DOWNWARDS THEN CURVING LEFTWARDSjRIGHTWARDS",
    ".ARROW POINTING RIGHTWARDS THEN CURVING DOWNWARDSjSOUTH WESTkUPWARDS",
    ".ARROW POINTING UPWARDS THEN NORTH WEST.ARROWHEAD-SHAPED POINTERwTICULATED LORRYnST PALETTE",
    "nSCENDING NODElIA SYMBOLkSERTIONhTERISKa OPERATORkMfONISHED FACEmRAEA",
    "dONOMICAL SYMBOL FOR URANUS.ASYMPTOTICALLY EQUAL TOwTHLETIC SHOElOM SYMBOLkUBERGINE",
    "hSTRAL SIGNkTO RICKSHAWjMATED TELLER MACHINEtOBILEjVESTAN ABBREVIATION MARKrLETTER AaAaNbOcE",
    "aEcNbOcBEbHEdCEcDEbHEdEaEcFEcGEbGEcHEdHEbMEdIaIcJEcKEcLEcMEcNEbGEbVEcYEdNEcYEdOaOcPEcREcSEbHE",
    "bYEdSHEeTEbHEcTEdUaUcVEcXEbVEcYEdYEbYEdZEbHEqOCADOgXEdBABYa ANGELfBOTTLEgCHICKfSYMBOL",
    "jCK OF ENVELOPElWITH LEFTWARDS ARROW ABOVE.BACK-TILTED SHADOWED WHITE RIGHTWARDS ARROW",
    ".BACKSLANTED SOUTH ARROW WITH HOOKED TAILjRIZONTAL TAIL.BACONcTRIAN CAMELmDGER",
    "dMINTON RACQUET AND SHUTTLECOCK.BAGELcGAGE CLAIMkUETTE BREADmLINESE ADEG ADEGjCARIK PAMUNGKAH",
    "hRERENhSIKIkDIGIT EIGHTfFIVEdOUReNINEeONEdSEVENeIXdTHREEeWOdZEROkLETTER AIKARAfKARAa TEDUNG",
    "lRCHAIC JNYAlSYURA SASAKmBAa KEMBANGkCAa LACAhDAa MADUdURDA ALPAPRANAjMAHAPRANAsEF SASAKhKARA",
    "fGAa GORAhHAcIKARAa TEDUNGmJAa JERAhKAa MAHAPRANAkF SASAKiHOT SASAKkLAa LENGAa TEDUNGpMAcNA",
    "a RAMBATiGAcYAdOKARAa TEDUNGmPAa KAPALiRAa REPAa TEDUNGoSAa SAGAcPAhTAa LATIKfMURDA MAHAPRANA",
    "pTAWAgZIR SASAKkUKARAa TEDUNGmVE SASAKiWAcYAcZAL SASAKqMUSICAL SYMBOL COMBINING BENDEfENDEP",
    "fGONGeJEGOGANhKEMPLIa WITH JEGOGANpULa WITH JEGOGANtTEGEHpDAENGdINGdNGa GEDEeSURANGkENGcUNG",
    "eINGdONGdUNGeLEFT-HAND CLOSED PLAKcUKlOPEN PANGdINGdUNGtRIGHT-HAND CLOSED TAKcUKkOPEN DAGcUG",
    ".BALINESE PAMADAa LANTANGlENENGgNTIa LANTANGnSIGN BISAHfCECEKfREREKANhSURANGgULU CANDRAgRICEM",
    "oVOWEL SIGN LA LENGAa TEDUNGpPEPETa TEDUNGmRA REPAa TEDUNGoSUKUa ILUTjTALINGa REPAa TEDUNG",
    "lTEDUNGmEDUNGgULUa SARItWINDUlL OF YARNiET SHOESiOONa-SPOKED ASTERISKsT BOLD SCRIPT XlX",
    "a WITH BALLOTfOLD CHECKfSCRIPT XnCHECKfLIGHT XhSCRIPT XiXkSCRIPT XiXgMUM COLON",
    "dMBINING MARK KOQNDONhTUKWENTISvMAfFULL STOPjLETTER AbEEcFAAMAEfEEcOMcUcIbKAbENbTbUXdIbOaGHOM",
    "eVUUePAcUbYEEeLAbEEEEeIbOQcUcMaAbBAAcENdEEEEdNcIbObUcNAbDAAdGAbGAcKWAENgIbJAEMdEEcUAEeSHAdTEE",
    "cUUdUaAEdYIdObPAbEEbUXdHASE-A FIRIeGBIEE FONiHEUAEGHEUAEgRAEjKAFAcQcETbUKEUTNDAjPOQdUOQeLAPAQ",
    "eET KUTgOMMAEfUaAEPfMAEKEUPeMaBGBIEEgKPENeVEUXfNYIdSIdNSUAEfP PIEETiBANYIdQdEUNJOMNDEUQlGBASA",
    "fON NGGEUAETkOMEUTdPUQgVEUAENGAMkNAA MFONgQcDA LEERAEWAjANGGEUAETlENcGANGUeGENdKUE MFONfNZEUM",
    "jIKAdJAMdKAARAEfINDIfSHAbIEEfTAPa MFAAeNTAAhOQPENgYETcIaT MONGKEUAEQoZA MFONgUN MEUT",
    "jPA LEERAEWAjAMbRAEeMSHAEfSHAEfETcON MFON PIPAEMBAcGBIEEqPA NJI PIPAEMBAcGBIEEvUPdROMdSEUNYAM",
    "gHINDA PA NJIkRAEeOQ NSHUT YUMmUENSHUEThMdISAdONJAMeQbTcUUdTEUAENdTEUWENiITA MFONiU MAEMBA",
    "hAEPfU YUQ NAEiNKNOWNhVEEfB FEEbUXeGHEUGHENbUAEMlKAMcEUAEMdPUQdYEUXgIEEMdQdLAANAE",
    "eM NSHUT NYAMnETcOM NTEUMjMAa NJEUAENAgUQAhBA MAELEEhARAEfEURIeIT MBAAKETkUOQeEUQbT NGGEET",
    "kFIYAQeON TEUAEQkONTIEENiNDU NJAAhGGAAMdEU MBUgUOQa LARGEkKINDI MVOPkOMdSENcHUETfTIEE SHEUOQ",
    "lYAEMAEfI NTEUMjPARUMeEESHIfITcUNGAAMhSAKEUAEgET TUfHET NJAQgUAEQTUiIEEdUEdTAAMdU MAEMGBIEE",
    "jNSIEEiVEUMeWUAETfYAFU LEERAEWAmEURAEiC BUNGeFUEdGBAYIeHAPbRAEgKAAcEN FATIGUEhLAWfTbUKAQdM",
    "bSEUXdHEUAEPjPARAQfUOP NKAARAEkTdLAMbPcIQcUcMA KEUAERIhNSIEEgEMBAdSIeBAA CABBAGE-TREEmPICKET",
    "iNYIeEEKEETfRAEdUMbXdIaRIEENfTcUAEMdEdGBASAQgIEEdUAEeNANSANAQgQcDAMbPcEUAEREEfTdIDAdOMBUfGAQ",
    "cGENcUaAEN NYAMiEETdMbONeKAQcUE MAEMBAkOMdJAEMcMcEEEEdUXdUEQeSAbEUAENfHAQdOMcUNbOT NGOMjTAA",
    "cENbUNGBAgU MBIThYIR MKPARAQ MEUNqZAbEUMfPENcINbRIEENhRUcSETFONeUXdHIQcUEQeUAETfTAASHAEgET",
    "bUTEUXgITA YUEfUAEPhVEUAEPENfXeWANGKUOQhUPdYAAcEUQdU MUOMAEhMbWOQhD FAAcEUFEUAETjGHAAcEUAE",
    "gKETbUAETMEUNhMbOT MBUAEiPdUaNbOMcQcWAETeYEEeLEEEEdTbUAEPdMdIEEdOQcUMdMaAENJETfLEERIgBAA",
    "a SEVENiUOdEEEEdUNbTdFEUAEcTdIEEdOaNdGBEUNdIEEdOFUMgONIdUbVOPeNDAMcEEbUXdONdGGAAMaAEePcEUX",
    "dUOMdWAENfKAPcEUAEQdRIeIEEdUNcYEEfIbJAPcEUAEMdTdIaEEdUEQeSHEEcUTdIEEPbTeUMdTEEbUMdUUdUbYAMcET",
    "cIbUEePAPcEEbUTAEfIPcUQbUTeRAEMdEN MUCHeOLDgIIdSAPbQcEUAEQfHEEbUAEcXdIIcOQcUcOTcUAEcEbUdTAE",
    "cEEEEdUAENdNbTdIbOQcUaOTeWAPcUAENfYAEMMAEgENcUOMbPcWOQhE AbFAaQcEEcOMcU CALLeIbREMEDYhEaT",
    "eGBETbUXeHAAMAEfETbUAEcNbXdOMeIbKETbUAEcXdIbObPEUXeUETcOPcTdLAAMcPbQcEUAEMfOMbONbTcQcUcMAaEaM",
    "cPbQcBEEbUMeENcFEUQeGBAbENeIaEEdONcUAEdVIdNAaEcDAA MY HOUSEiSOFTNESSkPcIAQcQcUNdGAbEUREUT",
    "gGEEEEdUAEaTfUAESHAE NYAMlPbRAEfKAaAMIeEUAEMdXdUMbPdOPbQcUAEaTfJAEMLIfEEa EPOCHhUXeKOMdSHIEE",
    "dUEbOPfTAPcUMdYI BETWEENhCLEAVERkZAQcUQeObPA PEOPLEfLURALhAaMdEEMcUTbXdIaEEQcTdOaONdUaAEbQcE",
    "bMdRAEbQcEUXdIMGBAgSAAcEEbTcHEUAEQfIQcOaQdOMcUAENfTAAaQcEN NTEUMiMbQcENbUaAEQfOOaNcQcUAEcMaAE",
    "fVEEbUAEeOMdWEUXdUEbOdYAPcEUAEaTdMbXdIEEcTcOQ COVERfSWIMMINGlUAENdEQcNbQfF EEcFOMdKAbENbTcO",
    "bPAcUbYEEeLAbIbOQdMaAbBAAcENdEEEEeOcNDAAdGGAcKWAENgIbJAEMdUAEeSHAdTEEdUaAEdYIdPEEbUXdUAEeREE",
    "bNbUXdIEEcIcUcSAMBAeEUXdHIIcObUcIbUUdTAAbEcETdUbVUEQeWAbUEdYAbOQkIbUAEcEdRAEcEEbNbUXdIEEcIcU",
    "cSAMBAeEUXdHEUXdIIcObUcIbUUdTAAbEcENbTcIcUbWAbUEdYAbOQcUQkNJAEMLIhQUESTION MARKnSEMICOLON",
    "nNANAdJOcKaNOTE WITH DOLLAR SIGNlEURO SIGNjPOUND SIGNkYEN SIGNuR CHARTfOF SOAPiBER POLE",
    "jSEBALLfKETaBALL AND HOOPqSA VAH COMBINING HIGH TONEf-LOW TONEnLOW TONEf-MID TONEmMID TONE",
    "sFULL STOPjLETTER AbBAcCEcDHIIdOcEaEbNNIeFAcGAHcBUdHWAHeIbJOcKAbPAHeMBEdOaOcPAcSEcTOcUaWUdVU",
    "cWAaDDAfYEINdIEdZOrTaAK CONSONANT SIGN HbNGrLETTER AbBAcCAcDAcGAcHAcIbJAcKARO BAhLAcMA",
    "aNDAILING HAcNAcSAmBAdNAbDAcGAcORTHERN TAkYAdPAaKPAK WAjRAcSAbIMALUNGUN AbGAcHAcLAcMAcPAcRA",
    "cSAcWAcYAmOUTHERN TAlUbWAcYAjPANGOLATfONGONANkSIGN TOMPIjYMBOL BINDU JUDULfNA METEKiPANGOLAT",
    "hINARBORASxVOWEL SIGN EaEcIbKARO IbOgObPAKPAK EiUa FOR SIMALUNGUN SA.BATHaTUBeTERY",
    "gEACH WITH UMBRELLAqMED ASCENDING MUSICAL NOTESxDESCENDING MUSICAL NOTESyEIGHTH NOTES",
    "mSIXTEENTH NOTEStNScR FACEfDED PERSONlTING HEARTkVEReCAUSEfDbER MUGfTLEeLLa PEPPERgSYMBOL",
    "gWITH CANCELLATION STROKEzHOP BELLkNGALI ABBREVIATION SIGNqNJIdU LENGTH MARK",
    "oCURRENCY DENOMINATOR SIXTEENtNUMERATOR FOUReONEa LESS THAN THE DENOMINATOR",
    ".BENGALI CURRENCY NUMERATOR THREEeWOwDIGIT EIGHTfFIVEdOUReNINEeONEdSEVENeIXdTHREEeWOdZERO",
    "kGANDA MARKkISSHARgLETTER AaAbIbUcBAbHAdCAbHAdDAbDAbHAdHAdEbGAbHAdHAcIaIcJAbHAdKAbHAaNDA TA",
    "jLAcMAcNAbGAcNAcYAdObPAbHAdRAa WITH LOWER DIAGONALoMIDDLE DIAGONALwHAcRAdSAbHAcSAdTAbHAcTAbHA",
    "eUaUcVEDIC ANUSVARAnOCALIC LaLcRaRkYAbYAkRUPEE MARKeSIGNkSANDHI MARKkIGN ANUSVARAhVAGRAHA",
    "iCANDRABINDUlNUKTAfVIRAMAeSARGAmVOWEL SIGN AAbIbUcEbIaIcObUaUcVOCALIC LaLcRaR",
    ".BENT ARROW POINTING DOWNWARDS THEN NORTH EAST.BENTO BOXgZENE RINGa WITH CIRCLEwT SYMBOLhWEEN",
    "fVERAGE BOXlHAIKSUKI DANDAeIGIT EIGHTfFIVEdOUReNINEeONEdSEVENeIXdTHREEeWOdZEROjOUBLE DANDA",
    "mGAP FILLER-1b2mHUNDREDS UNIT MARKsLETTER AaAbIbUcBAbHAdCAbHAdDAbDAbHAdHAdEbGAbHAdHAcIaIcJA",
    "bHAdKAbHAdLAcMAcNAbGAcNAcYAdObPAbHAdRAcSAbHAcSAdTAbHAcTAbHAeUaUcVAbOCALIC LbRaRkYA",
    "jNUMBER EIGHTaYgFIFTYdVEdORTYdUReNINEaTYgONEdSEVENaTYgIXaTYfTENcHIRTYeREEeWENTYeO",
    "kSIGN ANUSVARAhVAGRAHAiCANDRABINDUlVIRAMAeSARGAmVOWEL SIGN AAbIbUcEbIaIcObUaUcVOCALIC LbRaR",
    "vWORD SEPARATORxICYCLEbISThG REVERSE SOLIDUSpSOLIDUSjKINIeLLED CAPgIARDShOHAZARD SIGNmRD",
    "bTHDAY CAKElSONdTCOIN SIGNjING LIPjLACK BOWTIEgCENTRE WHITE STARqHESS BISHOP",
    "a ROTATED NINETY DEGREESoTWO HUNDRED SEVENTY DEGREES.BLACK CHESS EQUIHOPPER",
    "a ROTATED NINETY DEGREES.BLACK CHESS KINGa ROTATED NINETY DEGREESoTWO HUNDRED SEVENTY DEGREES",
    ".BLACK CHESS KNIGHTa ROTATED FORTY-FIVE DEGREESsNINETY DEGREES",
    "oONE HUNDRED THIRTY-FIVE DEGREES.BLACK CHESS KNIGHT ROTATED THREE HUNDRED FIFTEEN DEGREES",
    ".BLACK CHESS KNIGHT ROTATED TWO HUNDRED SEVENTY DEGREESpTWENTY-FIVE DEGREES",
    ".BLACK CHESS KNIGHT-BISHOPgQUEENfROOKlPAWNa ROTATED NINETY DEGREES",
    "oTWO HUNDRED SEVENTY DEGREES.BLACK CHESS QUEENa ROTATED NINETY DEGREES",
    "oTWO HUNDRED SEVENTY DEGREES.BLACK CHESS ROOKa ROTATED NINETY DEGREES",
    "oTWO HUNDRED SEVENTY DEGREES.BLACK CHESS TURNED BISHOPgKINGdNIGHTgPAWNeQUEENfROOKqIRCLE",
    "a FOR RECORDkWITH DOWN ARROWkTWO WHITE DOTSoWHITE DOT RIGHT.BLACK CLUB SUITiROSS ON SHIELD",
    "oURVED DOWNWARDS AND LEFTWARDS ARROWpRIGHTWARDS ARROW",
    ".BLACK CURVED LEFTWARDS AND DOWNWARDS ARROWpUPWARDS ARROW",
    ".BLACK CURVED RIGHTWARDS AND DOWNWARDS ARROWpUPWARDS ARROW",
    ".BLACK CURVED UPWARDS AND LEFTWARDS ARROWpRIGHTWARDS ARROW.BLACK DIAMONDa CENTRED",
    "hMINUS WHITE XnON CROSSiSUITeWITH DOWN ARROWwOWN POINTING BACKHAND INDEX",
    "y-POINTING DOUBLE TRIANGLEpISOSCELES RIGHT TRIANGLEySMALL TRIANGLEoTRIANGLE",
    "sWARDS EQUILATERAL ARROWHEAD.BLACK DRAUGHTS KINGeMANkOPLEThFLAGcORETTEhOLDEReUR POINTED STAR",
    "rHARD SHELL FLOPPY DISKvEARTa SUITiXAGONgORIZONTAL ELLIPSEqURGLASSjLARGE CIRCLEgSQUARE",
    "lEFT LANE MERGEkPOINTING BACKHAND INDEXoINDEXp-POINTING DOUBLE TRIANGLEa WITH VERTICAL BAR",
    ".BLACK LEFT-POINTING ISOSCELES RIGHT TRIANGLEyPOINTERhSMALL TRIANGLEoTRIANGLEsWARDS BULLET",
    "gEQUILATERAL ARROWHEAD.BLACK LOWER LEFT TRIANGLEnRIGHT TRIANGLEsZENGEhMEDIUM DIAMOND",
    "gOWN-POINTING TRIANGLEa CENTRED.BLACK MEDIUM LEFT-POINTING TRIANGLEa CENTRED",
    ".BLACK MEDIUM LOZENGEhRIGHT-POINTING TRIANGLEa CENTRED.BLACK MEDIUM SMALL DIAMONDhLOZENGE",
    "hSQUARElQUAREgUP-POINTING TRIANGLEa CENTRED.BLACK MOON LILITHlNIBdOCTAGONhPARALLELOGRAM",
    "mENNANTeTAGONhUSHPINhQUESTION MARK ORNAMENTwRECTANGLEiIGHT POINTING BACKHAND INDEXoINDEX",
    "p-POINTING DOUBLE TRIANGLEa WITH VERTICAL BAR.BLACK RIGHT-POINTING ISOSCELES RIGHT TRIANGLE",
    "yPENTAGONhOINTERhSMALL TRIANGLEoTRIANGLEa WITH DOUBLE VERTICAL BAR.BLACK RIGHTWARDS ARROW",
    "aHEADjBULLETgEQUILATERAL ARROWHEAD.BLACK ROSETTEhSAFETY SCISSORSoCISSORShHOGI PIECE",
    "kKULL AND CROSSBONEStLIGHTLY SMALL CIRCLEgSQUAREuMALL DIAMONDhLOZENGEhSQUAREfTARiILING FACE",
    "lNOWMANgPADE SUITjQUAREa BUTTONgCENTREDhFOR STOPoTARdUN WITH RAYSnTELEPHONEiINY DIAMOND",
    "hLOZENGEhSQUAREkOUCHTONE TELEPHONEsRUCKeWO-WAY LEFT WAY TRAFFICyUNIVERSAL RECYCLING SYMBOL",
    "zP POINTING BACKHAND INDEXy-POINTING DOUBLE TRIANGLEpISOSCELES RIGHT TRIANGLEySMALL TRIANGLE",
    "oTRIANGLEsPER LEFT TRIANGLEnRIGHT TRIANGLEsWARDS EQUILATERAL ARROWHEAD.BLACK VERTICAL ELLIPSE",
    "hRECTANGLEpY SMALL DIAMONDhLOZENGEhSQUAREs-FEATHERED NORTH EAST ARROWqRIGHTWARDS ARROW",
    "qSOUTH EAST ARROW.BLACK-LETTER CAPITAL CbHbIbRbZtNK SYMBOLkOCK SEXTANT-1a2a3a4a5b6c5a6c6c4a5",
    "a6c6c5a6c6c3a4a5a6c6c56c6c4a5a6c6c5a6c6c2a3a4a5a6c6c5a6c6c4a5a6d5a6c6c3a4a5a6c6c5a6c6c4a5a6c6",
    "c5a6c6mSSOMeWFISHgUE BOOKeHEARTgBERRIESkOARcLD EIGHT SPOKED ASTERISKvFIVE SPOKED ASTERISK",
    "uGREEK CROSSlSALTIREgIX SPOKED ASTERISKtWHITE CIRCLEgSQUAREpMBcNEcOKaMARKa TABSjScMERANG",
    "hPOMOFO FINAL LETTER GbHbKbPbToLETTER AaHbIaNNdMbNaGbNcUaNNeBaUcCaHcDbEaEbHbIbNaGbNcRcFbGaHbN",
    "bUbWcHbIaHbMbNNaNdRbUcJaIcKaWcLaHcMbNaGaGcNcOa WITH DOT ABOVEpEbMbNGbNcObUcPbQbRbSaHcTbUaNNdV",
    "bXbZaHbIbYqTTLE WITH POPPING CORKuOM ARC ANTICLOCKWISE ARROWxCURLY BRACKETnHALF BLACK CIRCLE",
    "mINTEGRALiLEFT PARENTHESISqRIGHT PARENTHESISwLEFT CORNERfROPeHALF BRACKETrPARENTHESIS",
    "lRIGHT CORNERfROPeHALF BRACKETsSQUARE BRACKETa OVER TOP SQUARE BRACKET",
    ".BOTTOM TORTOISE SHELL BRACKET.BOUQUETa OF FLOWERSqW AND ARROWkL OF HYGIEIAkWITH SPOONlING",
    "eTIEa WITH LEFT HALF BLACKpRIGHT HALF BLACK.BOX DRAWINGS DOUBLE DOWN AND HORIZONTALkLEFT",
    "eRIGHToHORIZONTALkUP AND HORIZONTALkLEFTeRIGHTmVERTICALa AND HORIZONTALkLEFTeRIGHT",
    "xWN DOUBLE AND HORIZONTAL SINGLErLEFT SINGLElRIGHT SINGLExHEAVY AND HORIZONTAL LIGHT",
    "qLEFT LIGHTfUP LIGHTnRIGHT LIGHTfUP LIGHToUP HORIZONTAL LIGHT",
    ".BOX DRAWINGS DOWN LIGHT AND HORIZONTAL HEAVYqLEFT HEAVYfUP HEAVYnRIGHT HEAVYfUP HEAVY",
    "oUP HORIZONTAL HEAVY.BOX DRAWINGS DOWN SINGLE AND HORIZONTAL DOUBLErLEFT DOUBLElRIGHT DOUBLE",
    ".BOX DRAWINGS HEAVY DOUBLE DASH HORIZONTALkVERTICALsWNa AND HORIZONTALkLEFTeRIGHToHORIZONTAL",
    "kLEFTa AND LIGHT RIGHTuQUADRUPLE DASH HORIZONTALkVERTICALxRIGHTfTRIPLE DASH HORIZONTAL",
    "kVERTICALuUPa AND HORIZONTALkLEFTdIGHT DOWNkRIGHTmVERTICALa AND HORIZONTALkLEFTeRIGHT",
    "yLEFT DOWN HEAVY AND RIGHT UP LIGHT.BOX DRAWINGS LEFT HEAVY AND RIGHT DOWN LIGHTkUP LIGHT",
    "iVERTICAL LIGHT.BOX DRAWINGS LEFT LIGHT AND RIGHT DOWN HEAVYkUP HEAVYiVERTICAL HEAVY",
    ".BOX DRAWINGS LEFT UP HEAVY AND RIGHT DOWN LIGHT.BOX DRAWINGS LIGHT ARC DOWN AND LEFTeRIGHT",
    "oUP AND LEFTeRIGHTqDIAGONAL CROSSfDIAMONDhMIDDLE LEFT TO LOWER CENTREa TO MIDDLE RIGHT",
    ".BOX DRAWINGS LIGHT DIAGONAL MIDDLE LEFT TO UPPER CENTRE TO MIDDLE RIGHTa TO LOWER CENTRE",
    ".BOX DRAWINGS LIGHT DIAGONAL MIDDLE RIGHT TO LOWER CENTRE",
    "mUPPER CENTRE TO MIDDLE LEFT TO LOWER CENTRE",
    ".BOX DRAWINGS LIGHT DIAGONAL UPPER CENTRE TO MIDDLE LEFTa AND MIDDLE RIGHT TO LOWER CENTRE",
    ".BOX DRAWINGS LIGHT DIAGONAL UPPER CENTRE TO MIDDLE LEFT TO LOWER CENTREa TO MIDDLE RIGHT",
    ".BOX DRAWINGS LIGHT DIAGONAL UPPER CENTRE TO MIDDLE RIGHTa AND MIDDLE LEFT TO LOWER CENTRE",
    ".BOX DRAWINGS LIGHT DIAGONAL UPPER CENTRE TO MIDDLE RIGHT TO LOWER CENTREa TO MIDDLE LEFT",
    ".BOX DRAWINGS LIGHT DIAGONAL UPPER LEFT TO LOWER RIGHTtRIGHT TO LOWER LEFT",
    ".BOX DRAWINGS LIGHT DOUBLE DASH HORIZONTALkVERTICALsWNa AND HORIZONTALkLEFTeRIGHToHORIZONTAL",
    "a WITH VERTICAL STROKE.BOX DRAWINGS LIGHT LEFTa AND HEAVY RIGHTuQUADRUPLE DASH HORIZONTAL",
    "kVERTICALxRIGHTfTRIPLE DASH HORIZONTALkVERTICALuUPa AND HEAVY DOWNjORIZONTALkLEFTeRIGHT",
    "mVERTICALa AND HORIZONTALkLEFTeRIGHTyRIGHT DOWN HEAVY AND LEFT UP LIGHT",
    ".BOX DRAWINGS RIGHT HEAVY AND LEFT DOWN LIGHTkUP LIGHTiVERTICAL LIGHT",
    ".BOX DRAWINGS RIGHT LIGHT AND LEFT DOWN HEAVYkUP HEAVYiVERTICAL HEAVY",
    ".BOX DRAWINGS RIGHT UP HEAVY AND LEFT DOWN LIGHT.BOX DRAWINGS UP DOUBLE AND HORIZONTAL SINGLE",
    "rLEFT SINGLElRIGHT SINGLExHEAVY AND DOWN HORIZONTAL LIGHTvHORIZONTAL LIGHTqLEFT DOWN LIGHT",
    "kLIGHTkRIGHT DOWN LIGHTkLIGHTvLIGHT AND DOWN HORIZONTAL HEAVYvHORIZONTAL HEAVY",
    "qLEFT DOWN HEAVYkHEAVYkRIGHT DOWN HEAVYkHEAVYvSINGLE AND HORIZONTAL DOUBLErLEFT DOUBLE",
    "lRIGHT DOUBLE.BOX DRAWINGS VERTICAL DOUBLE AND HORIZONTAL SINGLErLEFT SINGLElRIGHT SINGLE",
    "xHEAVY AND HORIZONTAL LIGHTqLEFT LIGHTkRIGHT LIGHTvLIGHT AND HORIZONTAL HEAVYqLEFT HEAVY",
    "kRIGHT HEAVYvSINGLE AND HORIZONTAL DOUBLErLEFT DOUBLElRIGHT DOUBLE.BOXING GLOVEkYaS SYMBOL",
    "kRAHMI DANDAeIGIT EIGHTfFIVEdOUReNINEeONEdSEVENeIXdTHREEeWOdZEROjOUBLE DANDAmLETTER AaAbIbU",
    "cBAbHAdCAbHAdDAbDAbHAdHAdEbGAbHAdHAcIaIcJAbHAdKAbHAdLAbLAdMAcNAbGAcNAcYAdOaLD TAMIL LLAbLA",
    "eNNNAeRRAdSHORT EbOrPAbHAdRAcSAbHAcSAdTAbHAcTAbHAeUaUcVAbOCALIC LaLcRaRkYAjNUMBER EIGHTaY",
    "gFIFTYdVEdORTYdUReJOINERgNINEaTYgONEa HUNDREDhTHOUSANDmSEVENaTYgIXaTYfTENcHIRTYeREEeWENTYeO",
    "kPUNCTUATION CRESCENT BARmDOTbUBLE DOTkLINEdOTUSrSIGN ANUSVARAiCANDRABINDUlJIHVAMULIYA",
    "lOLD TAMIL VIRAMAqUPADHMANIYAlVISARGAmVIRAMAfOWEL SIGN AAbIbUcBHATTIPROLU AAoEbIaIcO",
    "aLD TAMIL SHORT EbOrUaUcVOCALIC LaLcRaRzILLE PATTERN BLANKfDOTS-1a2a3a4a5a6a7a8c8c7a8c8c6a7a8",
    "c8c7a8c8c5a6a7a8c8c7a8c8c6a7a8c8c7a8c8c4a5a6a7a8c8c7a8c8c6a7a8c8c7a8c8c5a6a7a8c8c7a8c8c6a7a8",
    "c8c7a8c8c3a4a5a6a7a8c8c7a8c8c6a7a8c8c7a8c8c5a6a7a8c8c7a8c8c6a7a8c8c7a8c8c4a5a6a7a8c8c7a8c8c6",
    "a7a8c8c7a8c8c5a6a7a8c8c7a8c8c6a7a8c8c7a8c8c2a3a4a5a6a7a8c8c7a8c8c6a7a8c8c7a8c8c5a6a7a8c8c7a8",
    "c8c6a7a8c8c7a8c8c4a5a6a7a8c8c7a8c8c6a7a8c8c7a8c8c5a6a7a8c8c7a8c8c6a7a8c8c7a8c8c3a4a5a6a7a8c8",
    "c7a8c8c6a7a8c8c7a8c8c5a6a7a8c8c7a8c8c6a7a8c8c7a8c8c4a5a6a7a8c8c7a8c8c6a7a8c8c7a8c8c5a6a7a8c8",
    "c7a8c8c6a7a8c8c7a8c8sNdEADbST-FEEDINGlVEdICKcDE WITH VEILlGE AT NIGHTmEFCASEeSeOCCOLIfKEN BAR",
    "dCIRCLE WITH NORTHWEST ARROW.BROKEN HEARTjOMcWN HEARTkUBBLE TEAeSfCKETeGaINESE END OF SECTION",
    "oLETTER AbBAcCAcDAcGAcHAcJAcKAcLAcMAbPAdNAbGAbKAdRAcYAbCAePAcRAcSAcTAcVAcYAjPALLAWA",
    "hVOWEL SIGN AEcEbIbObUtHID LETTER AbBAcDAcGAcHAcIbKAcLAcMAcNAbGAdPAcRAcSAcTAcUbWAcYA",
    "jVOWEL SIGN IbUqILDING CONSTRUCTIONtLLETa OPERATORlHORNa WITH SOUND WAVESvSEYEgRRITOfSa STOP",
    "fT IN SILHOUETTEoS IN SILHOUETTErTTERaFLYiYZANTINE MUSICAL SYMBOL AGOGI ARGIbOTERIiGORGI",
    "bOTERIjMESIcTRIAgPOLI ARGIeGORGIpNATRICHISMAkTIKENOKYLISMAhMAjPESO EKFONITIKONkXO NEOlLI",
    "cODERMA ARCHAIONiNEOjSTROFOI SYNDESMOS NEOnTELOUS ICHIMATOSsSa DIPLIfNEOlTHEMAhRGONbSYNTHETON",
    "lKTIKO DIcGAcKEcNIcPAcVOUdZOkCHAMILIbONgOREVMA ARCHAIONiNEOkROA KLITONgSPATHIgZYGOSlDASEIA",
    "fIARGONeSTOLI APLI MEGALIfIKRIkDIPLIfTHESEOSoESIS APLI DYO DODEKATArDIGRAMMOS EX DODEKATA",
    "vMONOGRAMMOS TESSERA DODEKATA.BYZANTINE MUSICAL SYMBOL DIESIS TETARTIMORION",
    "mRIGRAMMOS OKTO DODEKATAvTIMORIONqFTOGGOS OUkGORGONa PARESTIGMENON ARISTERA ANOdKATOnDEXIA",
    "zRAMMA GGjPLIa ARCHAIONnYOdEKSTREPTONjLAFRONgNARXIS KAI FTHORA VOUuDOFONONiPEGERMA",
    "hTERON ARGOSYNTHETONnPARAKALESMArXO EKFONITIKONpFANEROSIS DIFONIASiMONOFONIASkTETRAFONIAS",
    "uHTORA SKLIRON CHROMA VASIS.BYZANTINE MUSICAL SYMBOL FTHORA ARCHAIONa DEYTEROU ICHOU",
    "xDIATONIKI DIcKEcNANAdI ANOdKATOhPAcZOmENARMONIOS ANTIFONIAuI YFESIS TETARTIMORION",
    "wMALAKON CHROMA DIFONIASiMONOFONIASzNAOS ICHOSjENANOgSKLIRON CHROMA SYNAFInDIATONON DI",
    ".BYZANTINE MUSICAL SYMBOL GENIKI DIESISgYFESISmORGON ARCHAIONiNEO ANOdKATO",
    "iPARESTIGMENON ARISTERAiDEXIAvSYNTHETONlTHMIKON N APLOUNgDIPLOUNtRONTHISMATAmICHADIN",
    "gMIDIARGONhFONONeTHORAbONjSAKIA TELOUS ICHIMATOSvON ARCHAIONiNEOiKATAVA TROMIKONjSMAgHISTI",
    "hENTIMA ARCHAIONiNEO ANOdKATOeMESOjTAa ARCHAIONiNEO ANOdKATOeMESOrLASMAa ANOdKATOkONTEVMA",
    "a ALLOlRONISfUFISMAhRATIMA ALLOdRCHAIONiNEOeTAdOKOUFISMAiYPORROONnEMASTIhYLISMA",
    "hLEIMMA DYO CHRONONlENOS CHRONOUmIMISEOS CHRONOUpTESSARON CHRONONpRION CHRONONsMOIeYGISMA",
    "hMARTYRIA ALLI DEYTEROS ICHOSoPROTOS ICHOSrDEYTEROS ICHOSoLEGETOS ICHOSnPLAGIOS ICHOS",
    "fTETARTOS ICHOSvROTOS ICHOShVARYS ICHOSqTETARTOS ICHOSfLEGETOS ICHOSvRIFONIASgTOS ICHOS",
    "mVARYS ICHOStIKRON ISONlNANAeOLIGON ARCHAIONiNEOjMALONfXEIA DIPLIfEKFONITIKONlNEOeI ARCHAION",
    "oYRANISMA ARCHAIONiNEOnPARAKALESMA ARCHAIONiNEOkLITIKIa ARCHAIONiNEOmICHONhELASTONa NEO",
    "kRISPOMENIjTASMAcTIbOKOUFISMAoIASMA ARCHAIONiNEOjSIFISTOLYGISMAhNa NEOfPARAKALESMAlSYNAGMAmLI",
    "bONgRAPISMAgEVMAfSAXIMATAhEISMAa NEOjIMANSIS ARSEOSa DISIMOUhTETRASIMOUjRISIMOUpTHESEOS",
    "a DISIMOUhTETRASIMOUjRISIMOUyTAVROSa APODEXIAoIGMAeRAGGISMATAlYNAGMA ARCHAIONiMETA STAVROU",
    "mNEOiEVMAfRMAaTIKIjTELEIAeSSERAfTRAPLIhHEMAa APLOUNhTISMOS ESOcXOmS KAI APOTHESoITAeINAGMA",
    "gRIAbGORGONgPLIeOMIKOLYGISMAhN ALLOdRCHAIONiNEOfPARAKALESMAkSIFISTONjSYNAGMAoVAREIA DIPLI",
    "fEKFONITIKONlNEOeI ARCHAIONoTHYfXIRON KLASMAmYFEN ANOdKATOgSIS APLI DYO DODEKATA",
    "rDIGRAMMOS EX DODEKATAvMONOGRAMMOS TESSERA DODEKATA",
    ".BYZANTINE MUSICAL SYMBOL YFESIS TRIGRAMMOS OKTO DODEKATAvTIMORIONrPOKRISISa DIPLImRROIfSILI",
    ".CACTUSeDA UNAfUCEUSgLENDARfL ME HANDkMERAa WITH FLASHoPINGfNADIAN SYLLABICS AaAaIbYcI",
    "aVILIK BiNbTHAPASCAN MbSlYcBEAVER DENE LbRmIBLE-CREE YlLACKFOOT AbEbIbKAbEbIbOcNAbEbIbOcObSbW",
    "aAbEbIbOmCaAaAaIcRRIER CHAbEaEcIbObUdDEEbNE GEEfTAL ShIbLAbEaEcIbObUcZAbEaEcIbObUdEEcGAaAcEaE",
    "cHAbEaEcIbObUcIbObUbWAbUdHaEEcIbWAbEaEcIbObUdIaNITIAL ZjJAbEaEcIbJAbEaEcIbObUcObUbWAdKHAbEaE",
    "cIbObUcKaAbEaEcIbObUdLAbEaEcHAbEaEcIbObUcIbObUcMAbEaEcIbObUcNAbEaEcGbIbObUcPaAbEaEcIbObUcRAbE",
    "aEcIbObUcSAbEaEcHaAbEaEcIbObUcIbObUcTHAbEaEcIbObUcLAbEaEcHAbEaEcIbObUcIbObUcSAbEaEcIbObUcTAbE",
    "aEcIbObSAbEaEcIbObUcUdWAbEaEcIbObUcYAbEaEcIbObUcZaAbEaEcIbObUjEbHI SIGNhIaIcOaOcWAaAcEbIaIcO",
    "aOeEaASTERN WiNcFaAaAaIdEbIaIbNAL ACUTEfBOTTOM HALF RINGqDOUBLE ACUTEfSHORT VERTICAL STROKES",
    ".CANADIAN SYLLABICS FINAL DOWN TACKjGRAVEfMIDDLE DOTkPLUSeRAISED DOTjIGHT HALF RINGnNG",
    "eSHORT HORIZONTAL STROKEwMALL RINGkTOP HALF RINGsOaOcULL STOPiWAAeGLOTTAL STOPmHKbYPHENgIaIbN",
    "cKaAaAaIcYcEbIaIcOaOcWaAaAbYcEbIaIcOaOeLaAaAaIcYcEbHaAaAcIaIcOaOdIaIcOaOcWAaAcEbIaIcOaOeMaAaA",
    "aIcYcEaDIAL LbRhHbIaIcOaOaSE-CREE SKmWAaAcEbIaIcOaOeNa-CREE THEbIaIkAaAaIcSKAPI CWAAeKWAA",
    "eMWAAeNWAAeS-WcCWAdKWaAdPWAdTWAdWAAeTWAAeWAAcOOdYWAAkTTILIK HAaAcIaIcOaOdSHRAaAcIaIcOaOmYcEbG",
    "aAaAaIcIcIaIcOaOdHbIaIcNGaAaAcIaIcOaOeOaObYcUNAVIK HaAaAcEbIaIcOaOgUT HiWAaAcEbIaIcOaOeO",
    "aJIBWAY CbKbMbNaWIaIcOaOePbSaHcTiNbObYcPaAaAaIcYcEbIaIcOaObYcWAaAcEbIaIcOaObYeQaAaAaIcIcIaIcO",
    "aOdRa-CREE REbWEjAaAaIcYcEbIaIcOaOcWAaAcEEcIaIcOaOeSaAaAaIcYaISI HAbEbIbOaOdJIbUaUdMbSHAbEbI",
    "bOaOcWEeTHcYIiEbHaAaAbYcEbIaIcOaObYcWAaAcEbIaIcOaObYeIaIcOaObUTH-SLAVEY KAHcEHcIHcOHoYcPAbEbI",
    "bOcWaAaAcEbIaIcOaOeTaAaAaIcYcEbHa-CREE THaAaAcEbIaIcOaOkAaAcEbIaIcOaOcWAaAcEdIaIcLHAbEbIbOaO",
    "cWEeOaOcTAbEbHaAaAcEbIbOaOcWEdIbOcWAaAcEbIaIcOaOdYAbEbIbOdWAaAbYcEaST-CREE CWAaAcEbIaIcOaO",
    "eFWAAeKWAaAcEbIaIcOaOeLaAaAcEbOaOcWAaAcEbIaIcOaOeMaWAaAcEbIaIcOaOeNWAaAcEdPaWAaAcEbIaIcOaOeR",
    "aAbEbIbObWAAeSHWAaAcEbIaIcOaOeWAaAcEbIaIcOaOeTHWAAeWAaAcEbIaIcOaOeWAaAcEbIaIcOaOdYaWAaAcEbIaI",
    "cOaOkERN WiIaIcOaOaDS-CREE FINAL THiTHaAbEbIbObWAaAcEEcIaIcOaOqYa-CREE COOdKOOdLOOdMOOdNOOdOO",
    "cPOOcWAAeSOOdTOOdWbYOOjAaAaIcYcEbIaIcOaObYcWAaAcEbIaIcOaOuCEL TAGeLATION XjRdDLEcYcNED FOOD",
    "iOEdPITULUMgRICORNhR SLIDINGiD FILE BOXiINDEXa DIVIDERSqE OFdTa INSERTION POINTsIAN LETTER A",
    "a2cBbC-18c39eDa2cEa2cGa2cIaIcKa2cLaDa2dMaBa2b3b4dNaDbGbNcObPa2cQbRaRcSaHa2cSbTa2dTaTa2dUaUaU",
    "a2b3bUeXmONbUSEL HORSElP STREAMERjENTRY SAWkROTeSTLEeTa FACEa WITH TEARS OF JOYmWRY SMILE",
    "vUCASIAN ALBANIAN CITATION MARKnLETTER ALTcORdBETdCARbYNdHAaTcIbOYdYAWbYeDATcYANdZAYcYAYfEB",
    "bYNdFAMdGHEYSeIMdHEYTeINYAdRBcWNdJAYNdHOXeKARcIWdLANcYITeMAQdNOWCeONcPENcIWReQARbYdRATdSEYK",
    "dHAaKcOYeTAScIWRdYAYeVEYZeXEYNeYAYDdOWDeZARLdHAbIL.CAUTION SIGNlEDI SIGNfLLAfLTIC CROSS",
    "kNT SIGNfRE LINE SYMBOLmLINE LOW LINEiOVERLINErRESeHAINScRcKMA AU MARKhDANDAeIGIT EIGHTfFIVE",
    "dOUReNINEeONEdSEVENeIXdTHREEeWOdZEROjOUBLE DANDAmLETTER AAcBAAcHAAeCAAcHAAeDAAcDAAcHAAeHAAeE",
    "bGAAcHAAeHAAdIbJAAcHAAeKAAcHAAeLAAcHAAeMAAdNAAcGAAdNAAdYAAePAAcHAAeRAAdSAAdTAAcHAAdTAAcHAAfU",
    "bVAAdWAAdYAAcYAAlMAAYYAAhO MARKgQUESTION MARKnSECTION MARKlIGN ANUSVARAiCANDRABINDUlVISARGA",
    "mVIRAMAfOWEL SIGN AaAbIbUcEaIcIaIcOaIcUaUrM CONSONANT SIGN FINAL HbMbNGiLAcRAcWAcYA",
    "rDIGIT EIGHTfFIVEdOUReNINEeONEdSEVENeIXdTHREEeWOdZEROkLETTER AaIcBAbBAcHAdCHAbHAeDAbDAcHAdE",
    "bFINAL CHcGbKbLbNaGcPbRbSScTbYhGAbHAdHAcIbJAbHAdKAbHAdLAcMAbUEdNAbGAbUEdHAbJAcUEdUEdObPAbHA",
    "cPAdRAcSAbSAdTAbHAdUbVAcYAjPUNCTUATION DANDAeOUBLE DANDAmSPIRALgTRIPLE DANDAyVOWEL SIGN AAbI",
    "bUcEIcIaIcOaEcUaEpRACTER TIEjT WITH DOWNWARDS TRENDpUPWARDS TRENDa AND YEN SIGN.CHECK MARK",
    "fER BOARDa FILLpERING MEGAPHONEoSE WEDGEjQUERED FLAGlROKEE LETTER AbDAbEbIbLAcObUbVcEbGAbEbI",
    "bObUbVcHAbEbIbNAcObUbVcIbKAcLAbEbIbObUbVcMAbEbIbObUbVcNAaHcEbIbObUbVcObQUAbEbIbObUbVdSaAbEbI",
    "bObUbVcTAbEbIbLAbEbIbObUbVcSAbEbIbObUbVdUbVbWAbEbIbObUbVcYAbEbIbObUbVjSMALL LETTER AbDAbEbI",
    "bLAcObUbVcEbGAbEbIbObUbVcHAbEbIbNAcObUbVcIbKAcLAbEbIbObUbVcMAbEbIbObUbVcNAaHcEbIbObUbVcObQUA",
    "bEbIbObUbVdSaAbEbIbObUbVcTAbEbIbLAbEbIbObUbVcSAbEbIbObUbVdUbVbWAbEbIbObUbVcYAbEbIbObUbVuRIES",
    "dY BLOSSOMlSTNUTgI RHOeCKENeLDaREN CROSSINGoPMUNKfRONeOCOLATE BARkPSTICKS",
    "hRASMIAN LETTER ALEPHeYINeBETHeCURLED WAWkDALETHgGIMELfHEaTHeKAPHeLAMEDHgMEMdNUNdPEcRESH",
    "eSAMEKHfHINdMALL ALEPHlTAWdWAWdYODHeZAYINmNUMBER FOUReONEa HUNDREDlTENcHREEeWENTYeO",
    "tRISTMAS TREEmURCHfINEMAeRCLE DIVIDED BY HORIZONTAL BAR AND TOP HALF DIVIDED BY VERTICAL BAR",
    ".CIRCLE WITH ALL BUT UPPER LEFT QUADRANT BLACK.CIRCLE WITH HORIZONTAL BARoLEFT HALF BLACK",
    "oOWER HALF BLACKqRIGHT HALF BLACKqSMALL CIRCLE TO THE RIGHTyUPERIMPOSED X",
    "oTWO HORIZONTAL STROKES TO THE RIGHT.CIRCLE WITH UPPER HALF BLACKkRIGHT QUADRANT BLACK",
    ".CIRCLE WITH VERTICAL FILLtD ANTICLOCKWISE ARROWg-ROTATED DIVISION SIGN",
    ".CIRCLED ASTERISK OPERATORrBOLD XfULLETgC WITH OVERLAID BACKSLASHyCbDbROSS FORMEE",
    "a WITH FOUR DOTSjTWO DOTSuPOMMEEhING LANESoDASHdIGIT EIGHTfFIVEdOUReNINEeONEdSEVENeIXdTHREE",
    "eWOdZEROiVISION SIGNdLASHnOLLAR SIGN WITH OVERLAID BACKSLASH.CIRCLED DOT OPERATORmEQUALS",
    "gGREATER-THANmHANGUL CHIEUCHa AiIEUCa AhHIEUHa AhIEUNGa AbUhKHIEUKHa AiIYEOKa AiMIEUMa A",
    "hNIEUNa AhPHIEUPHa AiIEUPa AhRIEULa AhSIOSa AgTHIEUTHa AiIKEUTa AoEAVY WHITE RIGHTWARDS ARROW",
    ".CIRCLED HORIZONTAL BAR WITH NOTCHyUMAN FIGUREmIDEOGRAPH ACCEPTfDVANTAGEiLLIANCEhTTENTION",
    "jCENTREfONGRATULATIONmPYcRRECThEARTHeIGHTeNTERPRISEjXCELLENTjFEMALEfINANCIALhREcVEdOUReHAVE",
    "dIGHeITEMeKINDERGARTENlOTOeLABOReEFTdOWdMALEdEDICINEgTALeOONeNAMEdIGHTdNEeONEdPRINTfQUESTION",
    "iRELIGIONgSOURCEfTdIGHTfSCHOOLfECRETeVENeIXcOCIETYgPECIALgTOCKdUDYeUITABLEgNbPERVISEjTENcHREE",
    "eWOdWATEReOODnNFORMATION SOURCErTALIC LATIN CAPITAL LETTER CbR.CIRCLED KATAKANA AbEbHAbEbIbO",
    "bUcIbKAbEbIbObUcMAbEbIbObUcNAbEbIbObUcObRAbEbIbObUcSAbEbIbObUcTAbEbIbObUcUbWAbEbIbOcYAbObU",
    "kOREAN CHARACTER CHAMKOgJUEUIwLATIN CAPITAL LETTER AbBbCbDbEbFbGbHbIbJbKbLbMbNbObPbQbRbSbTbU",
    "bVbWbXbYbZqSMALL LETTER AbBbCbDbEbFbGbHbIbJbKbLbMbNbObPbQbRbSbTbUbVbWbXbYbZtESS-THANjMINUS",
    "eULTIPLICATION SIGN WITH CIRCUMFLEX ACCENT.CIRCLED NUMBER EIGHTEENdY ON BLACK SQUAREvLEVEN",
    "gFIFTEENdYa ON BLACK SQUAREuORTYa EIGHTfFIVEdOUReNINEeON BLACK SQUAREnEdSEVENeIXdTHREEeWO",
    "hURTEENiNINETEENiSEVENTEENdY ON BLACK SQUAREwIXTEENdY ON BLACK SQUAREvTENa ON BLACK SQUARE",
    "sHIRTEENdYa EIGHTfFIVEdOUReNINEeON BLACK SQUAREnEdSEVENeIXdTHREEeWOjWELVEdNTYa EIGHTfFIVEdOUR",
    "eNINEeON BLACK SQUAREnEdSEVENeIXdTHREEeWOrOPEN CENTRE EIGHT POINTED STAR.CIRCLED PARALLEL",
    "hERPENDICULARmLUSdOSTAL MARKlREVERSE SOLIDUSoING OPERATORnSQUAREgTIMESeRIANGLEa DOWN",
    "nVERTICAL BARmWHITE BULLETgSTARjZcXbZERO WITH SLASHtULATION FUNCTIONpMFLEX ACCENTmS TENT",
    "jTYSCAPEa AT DUSKqJK COMPATIBILITY IDEOGRAPH-2F800b1b2b3b4b5b6b7b8b9bAbBbCbDbEbFc10b1b2b3b4b5",
    "b6b7b8b9bAbBbCbDbEbFc20b1b2b3b4b5b6b7b8b9bAbBbCbDbEbFc30b1b2b3b4b5b6b7b8b9bAbBbCbDbEbFc40b1b2",
    "b3b4b5b6b7b8b9bAbBbCbDbEbFc50b1b2b3b4b5b6b7b8b9bAbBbCbDbEbFc60b1b2b3b4b5b6b7b8b9bAbBbCbDbEbF",
    "c70b1b2b3b4b5b6b7b8b9bAbBbCbDbEbFc80b1b2b3b4b5b6b7b8b9bAbBbCbDbEbFc90b1b2b3b4b5b6b7b8b9bAbBbC",
    "bDbEbFcA0b1b2b3b4b5b6b7b8b9bAbBbCbDbEbFcB0b1b2b3b4b5b6b7b8b9bAbBbCbDbEbFcC0b1b2b3b4b5b6b7b8b9",
    "bAbBbCbDbEbFcD0b1b2b3b4b5b6b7b8b9bAbBbCbDbEbFcE0b1b2b3b4b5b6b7b8b9bAbBbCbDbEbFcF0b1b2b3b4b5b6",
    "b7b8b9bAbBbCbDbEbFd900b1b2b3b4b5b6b7b8b9bAbBbCbDbEbFc10b1b2b3b4b5b6b7b8b9bAbBbCbDbEbFc20b1b2",
    "b3b4b5b6b7b8b9bAbBbCbDbEbFc30b1b2b3b4b5b6b7b8b9bAbBbCbDbEbFc40b1b2b3b4b5b6b7b8b9bAbBbCbDbEbF",
    "c50b1b2b3b4b5b6b7b8b9bAbBbCbDbEbFc60b1b2b3b4b5b6b7b8b9bAbBbCbDbEbFc70b1b2b3b4b5b6b7b8b9bAbBbC",
    "bDbEbFc80b1b2b3b4b5b6b7b8b9bAbBbCbDbEbFc90b1b2b3b4b5b6b7b8b9bAbBbCbDbEbFcA0b1b2b3b4b5b6b7b8b9",
    "bAbBbCbDbEbFcB0b1b2b3b4b5b6b7b8b9bAbBbCbDbEbFcC0b1b2b3b4b5b6b7b8b9bAbBbCbDbEbFcD0b1b2b3b4b5b6",
    "b7b8b9bAbBbCbDbEbFcE0b1b2b3b4b5b6b7b8b9bAbBbCbDbEbFcF0b1b2b3b4b5b6b7b8b9bAbBbCbDbEbFdA00b1b2",
    "b3b4b5b6b7b8b9bAbBbCbDbEbFc10b1b2b3b4b5b6b7b8b9bAbBbCbDfF900b1b2b3b4b5b6b7b8b9bAbBbCbDbEbFc10",
    "b1b2b3b4b5b6b7b8b9bAbBbCbDbEbFc20b1b2b3b4b5b6b7b8b9bAbBbCbDbEbFc30b1b2b3b4b5b6b7b8b9bAbBbCbD",
    "bEbFc40b1b2b3b4b5b6b7b8b9bAbBbCbDbEbFc50b1b2b3b4b5b6b7b8b9bAbBbCbDbEbFc60b1b2b3b4b5b6b7b8b9bA",
    "bBbCbDbEbFc70b1b2b3b4b5b6b7b8b9bAbBbCbDbEbFc80b1b2b3b4b5b6b7b8b9bAbBbCbDbEbFc90b1b2b3b4b5b6b7",
    "b8b9bAbBbCbDbEbFcA0b1b2b3b4b5b6b7b8b9bAbBbCbDbEbFcB0b1b2b3b4b5b6b7b8b9bAbBbCbDbEbFcC0b1b2b3b4",
    "b5b6b7b8b9bAbBbCbDbEbFcD0b1b2b3b4b5b6b7b8b9bAbBbCbDbEbFcE0b1b2b3b4b5b6b7b8b9bAbBbCbDbEbFcF0b1",
    "b2b3b4b5b6b7b8b9bAbBbCbDbEbFdA00b1b2b3b4b5b6b7b8b9bAbBbCbDbEbFc10b1b2b3b4b5b6b7b8b9bAbBbCbDbE",
    "bFc20b1b2b3b4b5b6b7b8b9bAbBbCbDbEbFc30b1b2b3b4b5b6b7b8b9bAbBbCbDbEbFc40b1b2b3b4b5b6b7b8b9bAbB",
    "bCbDbEbFc50b1b2b3b4b5b6b7b8b9bAbBbCbDbEbFc60b1b2b3b4b5b6b7b8b9bAbBbCbDc70b1b2b3b4b5b6b7b8b9bA",
    "bBbCbDbEbFc80b1b2b3b4b5b6b7b8b9bAbBbCbDbEbFc90b1b2b3b4b5b6b7b8b9bAbBbCbDbEbFcA0b1b2b3b4b5b6b7",
    "b8b9bAbBbCbDbEbFcB0b1b2b3b4b5b6b7b8b9bAbBbCbDbEbFcC0b1b2b3b4b5b6b7b8b9bAbBbCbDbEbFcD0b1b2b3b4",
    "b5b6b7b8b9.CJK RADICAL BAMBOOfLUEdOLT OF CLOTHlNEcXcRUSH ONEdTWOjC-SIMPLIFIED BIRDeCART",
    "eDRAGONgEATcVENeFISHdLYcROGeGATEdOLDeHORSEfLEAFdONGeSALTdEEcHELLeILKdPEECHgTANNED LEATHER",
    "nOOTHeURTLEgWINDqHOKEeITYcVILIANhLIFFdOTHESgOWdDEATHeIVINATIONjOGdEAT ONEdTHREEeWOgWEcYEdFIRE",
    "dOOTeGHOSTeRASS ONEdTHREEeWOjHANDdEADbRT ONEdTWOiORNeJ-SIMPLIFIED DRAGONgEVENeTOOTHeURTLEsADE",
    "eKNIFE ONEdTWOjLAME FOUReONEdTHREEeWOhONG ONEdTWOiMEATcSHdOONcRTAReTHEReUND ONEdTWOjNET FOUR",
    "eONEdTHREEeWOhOLDdPAW ONEdTWOgERSONgRAINcMbPcEPEATgSEALcCOND ONEdTHREEeWOjHEEPeILK",
    "cMPLIFIED HALF TREE TRUNKoORNeWALKdHEATfYELLOWqMALL ONEdTWOiNAKEdOUT ONEdTWOiPIRIT ONEdTWOjUN",
    "dTABLEeHREADfIGEReURTLEgWALK ONEdTWOgTER ONEdTWOiEST ONEdTWOqSTROKE BXGdDbHaGbPaWGdXWGdZaGbT",
    "bWaGcZaPbZaGfNbPaDbGbZcQbSaGbPbTbWaGbZcZaWGcZdTaNcWGcXGmLAMSHELL MOBILE PHONEtPPER BOARD",
    "iING HANDS SIGNqSSICAL BUILDINGqEAR SCREEN SYMBOLrINKING BEER MUGSjGLASSESnPBOARD",
    "hOCK FACE EIGHT OCLOCKh-THIRTYlLEVEN OCLOCKh-THIRTYnFIVE OCLOCKh-THIRTYkOUR OCLOCKh-THIRTY",
    "lNINE OCLOCKh-THIRTYlONE OCLOCKh-THIRTYkSEVEN OCLOCKh-THIRTYlIX OCLOCKh-THIRTYkTEN OCLOCK",
    "h-THIRTYjHREE OCLOCKh-THIRTYlWELVE OCLOCKh-THIRTYlO OCLOCKh-THIRTYqWISE CLOSED CIRCLE ARROW",
    "sONTOUR INTEGRALqDOWNWARDS AND UPWARDS OPEN CIRCLE ARROWS.CLOCKWISE GAPPED CIRCLE ARROW",
    "tINTEGRALiOPEN CIRCLE ARROWrRIGHT AND LEFT SEMICIRCLE ARROWS",
    ".CLOCKWISE RIGHTWARDS AND LEFTWARDS OPEN CIRCLE ARROWSa WITH CIRCLED ONE OVERLAY",
    ".CLOCKWISE TOP SEMICIRCLE ARROWtRIANGLE-HEADED OPEN CIRCLE ARROW.CLOSE UPdD BOOK",
    "eINTERSECTION WITH SERIFSyLOCK WITH KEYnMAILBOX WITH LOWERED FLAGmRAISED FLAGySUBSET",
    "a OR EQUAL TOqPERSETa OR EQUAL TOuUMBRELLAhNION WITH SERIFSa AND SMASH PRODUCT.CLOUD",
    "a WITH LIGHTNINGjRAINeSNOWeTORNADOpWN FACEjOATcCKROACHfTAIL GLASSlONUTfFFINeINcLLISION SYMBOL",
    "nONa EQUALSgSIGNiMBINING ACUTE ACCENTa BELOWmTONE MARKk-GRAVE-ACUTElMACRON",
    "lLMOST EQUAL TO ABOVEfBELOWuNNUITY SYMBOLmTICLOCKWISE ARROW ABOVElRING OVERLAYzSTERISK ABOVE",
    "fBELOWoBINDU BELOWkREVEa BELOWg-MACRONkIDGE ABOVEfBELOWmCANDRABINDUjRONa BELOWkEDILLA",
    "gIRCUMFLEX ACCENTa BELOWwLOCKWISE ARROW ABOVElRING OVERLAYvOMMA ABOVEa RIGHTlBELOW",
    "jNJOINING MACRONa BELOWwYRILLIC DASIA PNEUMATAoHUNDRED MILLIONS SIGNnTHOUSANDS SIGNwKAVYKA",
    "gLETTER AbBEbIG YUShCHEdDEbJERVfEFbLbMbNbRbSa-TEfFITAeGHEdHAaRD SIGNjIaEbOTIFIED AbBIG YUShE",
    "kKAcLITTLE YUSkMONOGRAPH UKmOaMEGAfPEcSHAbCHAeOFT SIGNjTEbSEdUaKRAINIAN IEmVEcYATcERUdIbUcZE",
    "bHEkMILLIONS SIGNnPALATALIZATIONmYEROKgOKRYTIEhSILI PNEUMATA",
    "oSMALL LETTER BYELORUSSIAN-UKRAINIAN I.COMBINING CYRILLIC TEN MILLIONS SIGN",
    "qHOUSAND MILLIONS SIGNvITLOa LEFT HALFjRIGHT HALFqVZMEToDELETION MARKlVANAGARI DIGIT EIGHT",
    "fFIVEdOUReNINEeONEdSEVENeIXdTHREEeWOdZEROkLETTER AbKAcNAcPAcRAcUbVIjSIGN AVAGRAHAxIAERESIS",
    "a BELOWg-RINGnOT ABOVEa LEFTeRIGHTlBELOWa LEFTlTED ACUTE ACCENTmGRAVE ACCENT",
    "rUBLE ACUTE ACCENTmBREVEa BELOWlCIRCUMFLEX ABOVEqGRAVE ACCENTmINVERTED BREVEa BELOWuLOW LINE",
    "iMACRONa BELOWmOPEN MARK BELOWoVERLINEiPARENTHESES ABOVEqLUS SIGN ABOVEfBELOW",
    "pRIGHTWARDS ARROW BELOWuNG BELOWkTILDEa LEFT HALFjRIGHT HALFqVERTICAL LINE ABOVEfBELOW",
    "kSTROKE OVERLAYyD CIRCUMFLEX ACCENTxWN TACK BELOWlWARDS ARROWpENCLOSING CIRCLEa BACKSLASH",
    "qDIAMONDhKEYCAPgSCREENfQUAREgUPWARD POINTING TRIANGLE.COMBINING EQUALS SIGN BELOWrFERMATA",
    "gOUR DOTS ABOVEpGLAGOLITIC LETTER AZUdBIG YUSgUKYeCHRIVIgDJERVIfOBROfFITAdRITUfGLAGOLIhHERUeI",
    "aNITIAL IZHElOTATED BIG YUShSMALL YUSqZHEeKAKOeLJUDIJEhMYSLITEhNASHIfONUdPOKOJIgRITSIfSHAbTA",
    "dLOVOeMALL YUSjTSIcVRIDOgUKUdVEDEeYATIdERIbUcSTUeObUcZEMLJAfHIVETEyRANTHA DIGIT FIVEdOUReONE",
    "dSIXdTHREEeWOdZEROkLETTER AbKAcNAcPAcVIoPHEME JOINERmVE ACCENTa BELOWmTONE MARKk-ACUTE-GRAVE",
    "lMACRONkEEK DIALYTIKA TONOSpKORONIShMUSICAL PENTASEMEjTETRASEMEiRISEMEpPERISPOMENI",
    "lYPOGEGRAMMENItHOMOTHETIC ABOVEoOK ABOVEiRNeINFINITYgVERTED BREVEa BELOWjIDGE BELOW",
    "mDOUBLE ARCH ABOVEfBELOWzS BELOWiKATAKANA-HIRAGANA SEMI-VOICED SOUND MARKwVOICED SOUND MARK",
    ".COMBINING KAVYKA ABOVE LEFTeRIGHTsLATIN LETTER SMALL CAPITAL GbLbMbNbRwSMALL LETTER A",
    "a WITH DIAERESISpEbLPHAeObVcBaETAeCa CEDILLAjDbEaSHcTHdFaLATTENED OPEN A ABOVEwGbHbIaNSULAR D",
    "bGbRbTjKbLa WITH DOUBLE MIDDLE TILDEzONG SgMbNbOa WITH DIAERESISjLIGHT CENTRALIZATION STROKE",
    ".COMBINING LATIN SMALL LETTER PbRa BELOWfROTUNDAjSaCHWAfTaURNED W BELOWoUa WITH DIAERESIS",
    "jLIGHT CENTRALIZATION STROKE.COMBINING LATIN SMALL LETTER VbWa BELOWhXbZtEFT ANGLE ABOVE",
    "fBELOWkRROW ABOVEfBELOWgHEAD ABOVEfBELOWpHALF RING ABOVEfBELOWnRPOON ABOVE",
    "nPARENTHESIS ABOVE LEFTkBELOW LEFTwRIGHT ARROW ABOVEfBELOWrTACK BELOWlWARDS ARROW OVERLAY",
    "nHARPOON WITH BARB DOWNWARDS.COMBINING LIGATURE LEFT HALFa BELOWpRIGHT HALFa BELOW",
    "wHT CENTRALIZATION STROKE BELOW.COMBINING LONG DOUBLE SOLIDUS OVERLAYwSOLIDUS OVERLAY",
    "oTROKE OVERLAYoVERTICAL LINE OVERLAYyW LINEiMACRONa BELOWfLEFT HALFa BELOWpRIGHT HALFa BELOW",
    "r-ACUTEfBREVEfGRAVElINUS SIGN BELOWqNOT TILDE ABOVEoUMBER SIGN ABOVErOGONEKa ABOVE",
    "lLD PERMIC LETTER ANcDOIdNENOEfSIIdZATAvPEN MARK BELOWoVERLINEiPALATALIZED HOOK BELOW",
    "uRENTHESES ABOVEfBELOWfOVERLAYsLUS SIGN ABOVEfBELOWpRETROFLEX HOOK BELOW",
    "sVERSE SOLIDUS OVERLAYqD COMMA ABOVEtIGHT ARROW ABOVEfBELOWgHEAD ABOVE",
    "eND DOWN ARROWHEAD BELOWuUP ARROWHEAD BELOWwBELOWpHALF RING ABOVEfBELOWnRPOON ABOVE",
    "nPARENTHESIS ABOVE RIGHTlBELOW RIGHTxTACK BELOWlWARDS HARPOON WITH BARB DOWNWARDS",
    ".COMBINING RING ABOVEfBELOWfOVERLAYmSEAGULL BELOWmHORT SOLIDUS OVERLAYoTROKE OVERLAY",
    "oVERTICAL LINE OVERLAY.COMBINING SNAKE BELOWkQUARE BELOWeRACKETS ABOVE",
    "uTRONG CENTRALIZATION STROKE BELOW.COMBINING SUSPENSION MARKpTHREE DOTS ABOVEpILDEa BELOW",
    "fLEFT HALF BELOWpOVERLAYhRIGHT HALF BELOWvRIPLE ACUTE ACCENTmDOTdUNDERDOToURNED COMMA ABOVE",
    "sUP TACK ABOVEfBELOWlWARDS ARROW BELOWsR ABOVEhS ABOVEiVERTICAL LINE ABOVEfBELOWkTILDE",
    "oWIDE BRIDGE ABOVEmINVERTED BRIDGE BELOWyGGLY LINE BELOWrX ABOVEfBELOWg-X BELOWjZIGZAG ABOVE",
    "fBELOWtETcMAbERCIAL ATcMINUS SIGNsPASSdLEMENTgOSITION SYMBOLoRESSIONjNFETTI BALLjOUNDED FACE",
    "lUSED FACEkGRUENT WITH DOT ABOVEvICAL TAPERkJUNCTIONiSTRUCTION SIGNeWORKERqTAINS AS MEMBER",
    "gNORMAL SUBGROUPa OR EQUAL TO.CONTAINS WITH LONG HORIZONTAL STROKEwOVERBAR",
    "hVERTICAL BAR AT END OF HORIZONTAL STROKE.CONTINUOUS UNDERLINE SYMBOLxOUR INTEGRALmROL KNOBS",
    "kVENIENCE STOREpOKED RICEhIEbNGfPTIC CAPITAL LETTER AKHMIMIC KHEImLFAeBOHAIRIC KHEI",
    "nCROSSED SHEIkYPTOGRAMMIC EIEdGANGIAgNIcSHEIsDALDAeEIcIALECT-P ALEFeHORIeKAPAeNImEIEdFEIcI",
    "cGAMMAdNGIAgHATEdORIeIAUDAfKAPAdHEIcIcSIdL-SHAPED HAkAULAfMIcNIcOaLD COPTIC AINdDJAdESH",
    "dGANGIAgHAaTcEIcORIeOOUdSHEIcIMAmNUBIAN NGIcYIdSHIMAfWAUnOUdPIbSIdROcSAMPIeHEIcIMAeIMAdOUdTAU",
    "cHETHEgUAcVIDAeZATAsOMBINING NI ABOVEiSPIRITUS ASPERfLENISyEPACT DIGIT EIGHTfFIVEdOUReNINE",
    "eONEdSEVENeIXdTHREEeWOjNUMBER EIGHT HUNDREDiYgFIFTYdVE HUNDREDlORTYdUR HUNDREDmNINE HUNDRED",
    "iTYgONE HUNDREDlSEVEN HUNDREDiTYgIX HUNDREDiTYfTENcHIRTYeREE HUNDREDmWENTYeO HUNDRED",
    "sTHOUSANDS MARKuFRACTION ONE HALFqULL STOPjMORPHOLOGICAL DIVIDER",
    "vOLD NUBIAN DIRECT QUESTION MARKuFULL STOPjINDIRECT QUESTION MARKwVERSE DIVIDER",
    "ySMALL LETTER AKHMIMIC KHEImLFAeBOHAIRIC KHEInCROSSED SHEIkYPTOGRAMMIC EIEdGANGIAgNIcSHEI",
    "sDALDAeEIcIALECT-P ALEFeHORIeKAPAeNImEIEdFEIcIcGAMMAdNGIAgHATEdORIeIAUDAfKAPAdHEIcIcSI",
    "dL-SHAPED HAkAULAfMIcNIcOaLD COPTIC AINdDJAdESHdGANGIAgHAaTcEIcORIeOOUdSHEIcIMAmNUBIAN NGIcYI",
    "dSHIMAfWAUnOUdPIbSIdROcSAMPIeHEIcIMAeIMAdOUdTAUcHETHEgUAcVIDAeZATAqYMBOL KAIcHI ROgMI RO",
    "fPI ROfSHIMA SIMAjTAUROShTAU ROrYLEFT SYMBOLlRIGHT SIGNmRALcNISH VERSE DIVIDERsRESPONDS TO",
    "mUCH AND LAMPlNTERBOREeSINKgING ROD TENS DIGIT EIGHTfFIVEdOUReNINEeONEdSEVENeIXdTHREEeWO",
    "oUNIT DIGIT EIGHTfFIVEdOUReNINEeONEdSEVENeIXdTHREEeWOyPLE WITH HEARTpWa FACEhRABcEDIT CARD",
    "iSCENT MOONlICKETa BAT AND BALLsOCODILEgISSANTgSS MARKeOF JERUSALEMjLORRAINE",
    "lPATTY WITH LEFT CROSSBARnRIGHT CROSSBARyOMMEEa WITH HALF-CIRCLE BELOW.CROSSED FLAGS",
    "fNEGATIVE SQUARED LATIN CAPITAL LETTER P.CROSSED SWORDSjING LANESlWNdUTCHdZEIRO SIGN",
    "lYING CAT FACEiFACEiSTAL BALLlUBE ROOThCUMBERgNEIFORM NUMERIC SIGN EIGHT ASHdDISHeGESH2fSHAR2",
    "fUa VARIANT FORMoVARIANT FORM USSUa3xLAMITE FIFTYeORTYfONE THIRDjTWO THIRDSsFIVE ASHa TENU",
    "iBAN2a VARIANT FORMqURUeDISHeGESH2bUfSHAR2bUeIXTHS DISHlUa VARIANT FORMsOUR ASHa TENUiBAN2",
    "a VARIANT FORMqURUeDISHeGESH2bUfSHAR2bUfUa VARIANT FORMoVARIANT FORM LIMMUa AbBc4yNIGIDAESH",
    "dMINhNE ASHdDISHeGESH2fSHAR2fUa VARIANT FORMoVARIANT FORM ILIMMUa Ac3b4",
    "zOLD ASSYRIAN ONE QUARTERhSIXTHvNE BAN2dURUeEIGHTH ASHjSHE3fGESH2bUfHALF GURiQUARTER ASHdGUR",
    "lSHARUfTHIRD DISHeVARIANT FORM AySEVEN ASHdDISHeGESH2fSHAR2fUa VARIANT FORM",
    "oVARIANT FORM IMIN AbBc3xHAR2 TIMES GAL PLUS DISHeMINxIX ASHa TENUiDISHeGESH2fSHAR2fU",
    "a VARIANT FORMoVARIANT FORM ASH9vTHREE ASHa TENUiBAN2dURUa VARIANT FORMrDISHeGESH2bUfSHAR2",
    "a VARIANT FORMoUa VARIANT FORMsVARIANT FORM ESH16c21xWO ASHa TENUiBAN2dURUeESHE3fGESH2bU",
    "fSHAR2bUfTHIRDS DISHeVARIANT FORM A.CUNEIFORM PUNCTUATION SIGN DIAGONAL COLONfQUADCOLON",
    "jTRICOLONrOLD ASSYRIAN WORD DIVIDERzVERTICAL COLON.CUNEIFORM SIGN Aa TIMES AbBADdGAN2 TENUjHA",
    "cIGIdLAGAR GUNUkMUSHeSAGk2bBa GUNUeTIMES ASH2eDUN3 GUNUjGALbN2 TENUjHAcIGI GUNUhMINeLAGABfNUN",
    "a TENUiSHESHdU2eU PLUS U PLUS Uw2a TIMES AbBALAGfGAN2 TENUjME PLUS ENkSHA3eTAK4nDa TIMES ESH2",
    "mKa TIMES ERIN2fSHITA PLUS GISHxLa TIMES ALcDIM2eGISHeHAcKAD3dIcSHEdUSHkANcEPHeMARa TIMES KUG",
    "dSHEnNa OVER ANhPLUS NAGA OPPOSING AN PLUS NAGAvSQUAREDrTHREE TIMESmSHEePINdRADa TIMES KUR",
    "mKABeSAL2dHa KABA TENUjOVER ASH OVER ASHa CROSSING ASH OVER ASH OVER ASH",
    ".CUNEIFORM SIGN ASH OVER ASH TUG2 OVER TUG2 TUG2 OVER TUG2 PAP.CUNEIFORM SIGN ASH ZIDA TENUk2",
    "bGABgBAaDa TIMES DISH TENUrG3cHAR2a TIMES AB2dNIcZAnLa OVER BALjAGdRaA2eIa TIMES AbGAR",
    "dIGI GUNUqUa CROSSING BUlOVER BU ABcTIMES NA2jUNlLUGa OVER BULUGoRa2eDAa TIMES TAK4lG",
    "a KISIM5 TIMES A PLUS MASHkMAReBALAGeIcGAa PLUS MASHlIaR2dUDdHAcIRa PLUS LUkKAKdLAbU",
    "a PLUS MASH2lMdNEcPAP PLUS PAPmSIcTAK4eU2 PLUS GIR2eMASHlSHqTIMES KURk3cMbRaA3b4eIaBbM",
    "a TIMES IGIdSHEdU U Um2a TIMES UDlNa KASKAL U GUNU DISHuSHa PLUS SHUmUa GUNUeOVER DUhSHESHIG",
    "iBa TIMES ESH2eSHEk2cGa TIMES ANSHEeSHa AT LEFTlDINcUNdERIN2fGAbIaR2 GUNUhSHeHAbIcIGI GUNU",
    "iKASKALfURbSHU2a PLUS KASKALsLAK-020fMa TIMES KURmUH PLUS GISHnMASHdEScIcNIcPIcSHEcI GUNUoUD",
    "dHbNa3a GUNUa GUNUl4cR2eEa OVER E NUN OVER NUNtTIMES PAPk2a TIMES A PLUS HA PLUS DArGARdKUR",
    "dMIcPAPdSALcHEdUjDINdGIRdLbNa CROSSING ENlOPPOSING ENlSQUAREDhTIMES GAN2a TENUjMEkRENcIN2a X",
    "gSH2a CROSSING ESH2rZENa SHESHIG TIMES ASHdHIcIGI GUNUiLAaLdMEaSdSUqTIMES Aa PLUS LAL",
    "a TIMES LALtNcBADdDUN3 GUNUa GUNUoGUDdHAa GUNUhIGI GUNUiKASKALa SQUAREDnU3dLAaL TIMES LALmIbU",
    "cSHEcUcU2bDnGAa GUNUf2a OVER GA2iTIMES A PLUS DA PLUS HAkHAcIGIjB2 TENU PLUS TABqN",
    "a PLUS KAK PLUS ArSHa2a PLUS GALnBADbHAR2eR PLUS RAkURa PLUS RAlDAbIaM GUNUeTIMES SHEmUB",
    "bG TIMES IGI GUNUiKASKALqELa PLUS LAjNa TIMES GAN2 TENUrRENeGAaN2 TENUhRa PLUS DIcNEkIa4",
    "a PLUS AiR2 PLUS SUmHA PLUS AbLU PLUS ESH2sLa PLUS LAkI PLUS LIjUB2eIGI GUNU",
    "hSH PLUS HU PLUS ASHuKAKbSKALfIDa PLUS LALlU3 PLUS ANjSHU2 PLUS KASKALsLAaMa TIMES KURmUH",
    "dME PLUS ENjIbUSHeNEa PLUS E2cGIjUNa OVER NUNmPAcSALbRcHEa PLUS TURkIDbMdUMdTAK4eUaDa PLUS DU",
    "kZIZ2mBAa CROSSING GABAnROTATED NINETY DEGREESzDa OVER GAD GAR OVER GARxL",
    "a GAD OVER GAD GAR OVER GAR.CUNEIFORM SIGN GALAMdMbNa2a CROSSING GAN2nOVER GAN2jTENUhRa3cSHAN",
    "fE22cSHTINa TIMES KURdUoIa CROSSING GIlTIMES EbUi4a CROSSING GI4mOVER GI4kDIMdGbR2a GUNUg3",
    "a TIMES A PLUS IGIkGAN2 TENUjIGIdLU PLUS IGIlPAlSALcHa CROSSING GISHnTENUdIMES BAD",
    "dGISH CROSSING GISHsTAK4oUa CROSSING GUm2a GUNUeTIMES IGI GUNUiKAKa TIMES IGI GUNUsNUN",
    "dSAL PLUS TUG2vDa OVER GUD LUGALoPLUS GISH TIMES TAK4uTIMES A PLUS KURkKURlLbMa TIMES SHElRa7",
    "bUNbSHgHAa GUNUeTENUa GUNUkLcIa TIMES ASHa OVER HI TIMES ASHs2eBADdDISHeGADdKINdNUNdSHEdUjU",
    "aB2a TIMES ANcHALdKASKALgLISHeUDlL2cSHeIa AcBbDIMa OVER IDIM BURdSQUAREDvGaIa DIBdGUNU",
    "eOVER IGI SHIR OVER SHIR UD OVER UD.CUNEIFORM SIGN IGI RIfLa TIMES GAN2 TENUq2cMa CROSSING IM",
    "lOPPOSING IMlSQUAREDhTIMES TAK4lINdNbRbSHdKAa TIMES AaDa PLUS KU3kNSHEeSH2b3eBADbLAGdRcIbU",
    "cERIN2eSH2eGAaLbN2 TENUhRa PLUS SHA3 PLUS AtIaR2cSHa CROSSING GISHnPLUS SARmUaDbR7",
    "eHI TIMES ASH2nIGIcMcKAaKcIaDdLIbUaMdMEa PLUS DUcGIcTEjIa PLUS NUNUZnNEbUNdPAbIcRUcSAaRcHAbE",
    "bIDcUaLdIGcUHURfTARcUcUa U Ue2bDbMUM TIMES PAmRa2cSHdZIj2a CROSSING KA2oBbD2b3b4b5a OVER KAD5",
    "mKa TIMES IGI GUNUqLa CROSSING KALmTIMES BADlM2b4cP ELAMITEjSKAL",
    "a LAGAB TIMES U OVER LAGAB TIMES U",
    ".CUNEIFORM SIGN KASKAL OVER KASKAL LAGAB TIMES U OVER LAGAB TIMES U.CUNEIFORM SIGN KESH2eI",
    "a TIMES BADdUaDjDbNbSALcHbIM5a OVER KISIM5rUa OVER HI TIMES ASH2 KU OVER HI TIMES ASH2",
    ".CUNEIFORM SIGN KU3b4a VARIANT FORMo7bLa GUNUgNbRa OPPOSING KURoSHU2fWU318gLAaGABa SQUARED",
    "hTIMES Aa PLUS DA PLUS HAkGARdLALjLbNbSH ZIDA TENUnBADcIcDARdENcGAaRcIbUDa PLUS GUDmHAaL",
    "cI TIMES NUNmIGI GUNUhMa PLUS HAcLUkKIaNcU3bLa PLUS HI PLUS AsLAGABeISHdUaLdMEa PLUS ENjUSH",
    "eNEcSHE PLUS SUMkITA PLUS GISH PLUS ERIN2kTENUsU2a PLUS SHU2nUMdTAGbK4",
    "dE PLUS A PLUS SU PLUS NAzUa PLUS AbU PLUS Uo2 PLUS ASHkDbSHdZU OVER ZUsRa GUNU",
    "a OVER LAGAR GUNU SHEyTIMES SHEa PLUS SUMwHSHUeK-003c21b5c30c50b1c62c79 OVER LAK-079 GUNUu80",
    "b1 OVER LAK-081p92d130c42d210b9c20b5b8c38c65b6d343b7b8c83b4c90d441b9a TIMES GUcIGI",
    "dPAP PLUS LU3dPAP PLUS LU3vU2 PLUS BAt50b7c70c83c90b2b3b5d550d608c17a TIMES ASHdBAD",
    "dDUN3 GUNU GUNUoKU3dLAcTARcEcU2bDbRUDAo36c48a TIMES DUBdGAcIGIa GUNUiNIcPAP PLUS PAP PLUS LU3",
    "vSHESH PLUS KInUDbRUDAp724c49fLa TIMES LALlMa TIMES KURa PLUS RUuIaLbMMU2eSHdUa TIMES BADk2",
    "a CROSSING LU2mGUNU TIMES ASHoOPPOSING LU2mSHESHIGa TIMES BADqQUAREDhTENUdIMES ALcBADdDISH",
    "eESH2a PLUS LALiTENUjGAN2 TENUjHALcI TIMES BADmIMcKAD2b3a PLUS ASHmIcLA PLUS ASHjGAB",
    "fME PLUS ENkNEbUcPAPa PLUS PAP PLUS LU3vSHUcI PLUS ASHjK2 PLUS BUmTAK4dUG2m3bGAL",
    "a OPPOSING LUGALnVER LUGALkSHESHIGlHbLbMa OVER LUMa GAR OVER GARzMAa GUNUeTIMES TAK4l2bHbRbSH",
    "a2eEaSaHdIa PLUS ZA7jNcUa OVER MUiGa GUNUgNSUBeRGU2eSHa CROSSING MUSHnOVER MUSH",
    "a TIMES A PLUS NAjGAcKAKtTIMES AbKURdZAj3a GUNUeTIMES Aa PLUS DIjDIcZAoNAa2b4bGAa INVERTED",
    "iOPPOSING NAGAnTIMES SHU TENUpRdMa NUTILLUi2dEa SHESHIGhTIMES AbUDkIa TIMES Ei2bM",
    "a TIMES GAN2 TENUhR PLUS GAN2 TENU.CUNEIFORM SIGN NINa9bDA2a TIMES ANbSHa PLUS ASHmBAL",
    "dDIM GUNUiGIaSHdUDbLdHIcKESH2fLAK-050hMASHdE PLUS GAN2 TENUrNEbUNdPAP PLUS PAPmSHEa PLUS A AN",
    "dSHa PLUS ASHvUa PLUS Uh2 PLUS ASHkRUDAeSHoSAGeUa11a ROTATED NINETY DEGREESzNa CROSSING NUN",
    "a LAGAR OVER LAGAR.CUNEIFORM SIGN NUN LAGAR TIMES GARdMASHeSALa OVER NUN LAGAR TIMES SAL",
    ".CUNEIFORM SIGN NUN LAGAR TIMES USHpOVER NUNiTENUfUZa AB2 TIMES ASHGABgBIcDUGdGUDdIGI GUNU",
    "iKAD3eLAcNEcSILA3fU2mKISIM5 TIMES BIa UxPAaDbNbPcESH2a ASTERISKnIa CROSSING PIlTIMES AaBcBIbU",
    "cEbIaBcUa2jR2bIGa OPPOSING PIRIGoTIMES KALdUDcZAoRAaBcIbUcSAaGa GUNUa TIMES HAnNUTILLU",
    "hOVER SAGiTIMES AbDUaBdENcHAcIGI GUNUiKAKcURdLUMdMIcNUNdSALcHE AT LEFTjIDeTABbK4eU2bBbMbRbSH",
    "lLa LAGAB TIMES ASH2sNGA2eRcHAa3a TIMES AbBADdGISHeNEcSHU2eTURdUa PLUS Aq6a TENUgB6cR2dEa HU",
    "cOVER SHEa GAD OVER GAD GAR OVER GARzTAB OVER TAB GAR OVER GAR.CUNEIFORM SIGN SHE PLUS HUB2",
    "eNAM2eSARjG9cNbSHa2bLAMgIDa TIMES AbIMkMa TIMES AbBALcULUGfDINdGARdIGIa GUNUiKUSHU2gLULdMUG",
    "dSALlNIGdRa OVER SHIR BUR OVER BURwTENUgTAdUa OVER INVERTED SHUs2a PLUS DUG TIMES NI",
    "mE2 TIMES ANsBURfIa GUNUeTIMES TAK4lGa4a OVER SIG4 SHU2rK2cLA3eUa OVER SUiDa2cHURdMaASHeRa9",
    "eTAa ASTERISKiGUNUeTIMES HIcMIjBa OVER TAB NI OVER NI DISH OVER DISH",
    ".CUNEIFORM SIGN TAB SQUAREDjGa TIMES BIcGUDdSHEbUdTUG2eUDkK4a PLUS SAGlRcEa GUNUgIa TENUf2bL",
    "bRa OVER TIRa GAD OVER GAD GAR OVER GAR.CUNEIFORM SIGN TIR TIMES TAK4nUaG2cKbM",
    "a TIMES GAN2 TENUjTHREE DISHsRa OVER TUR ZA OVER ZAxUa GUDdOVER U PA OVER PA GAR OVER GAR",
    "xSUR OVER SURmU REVERSED OVER U REVERSED.CUNEIFORM SIGN U Ua Ue2bBbDa GUNUeKUSHU2gSHESHIG",
    "a TIMES BADrTIMES BADdMIcU PLUS U PLUS Ua GUNU.CUNEIFORM SIGN UDUGdMa TIMES LAGABfMEa PLUS DA",
    "kSHA3eUiBINdUMa TIMES KASKALgPAmNa GUNUgRa CROSSING URlSHESHIGi2a INVERTEDiTIMES A PLUS HAcNA",
    "iLcHAcNUNdU2a PLUS ASHdBIjDk4bIa3cUa TIMES AaSHGABgBARdDARA3eUNdGAaLbN2 TENUhRcUcHAcIGIcMbSH",
    "dKIcLAK-668gU3bMdMINdPAcSHEcIG4eTUcU PLUS GUDjDbRUDAmDAa TIMES UmSHa TIMES AbKUaRdTAK4l2bUMX",
    "dXdTUKIeZ3a TIMES KASKALoUdZAa SQUARED TIMES KURrTENUf7bGbMXdE2cIa OVER ZIi3bBa KABA TENUlG",
    "bZ2dUa OVER ZU PLUS SARr5a TIMES AbTHREE DISH TENUxBURdMqP ON BLACK SQUAREpWITH STRAWlCAKE",
    "eIDOeRLING STONEjY BRACKET EXTENSIONrLOGICAL ANDdORiOPhRENCY EXCHANGEiSIGNjY AND RICE",
    "lVED STEM PARAGRAPH SIGN ORNAMENT.CUSTARDdOMSfT OF MEATkYCLONEfLINDRICITYkPRIOT SYLLABLE AbE",
    "bIbJAbOcKAbEbIbObUcLAbEbIbObUcMAbEbIbObUcNAbEbIbObUcObPAbEbIbObUcRAbEbIbObUcSAbEbIbObUcTAbEbI",
    "bObUcUbWAbEbIbOcXAbEcZAbOpO-MINOAN SIGN CM001b2b4b5b6b7b8b9c10b1b2aBc3b5b7b9c21b3b4b5b6b7b8b9",
    "c30b3b4b5b6b7b8b9c40b1b4b6b7b9c50b1b2b3b4b5b6b8b9c60b1b2b3b4b6b7b8b9c70b1b2b3b4b5aBc6b8b9c80",
    "b1b2b3b4b5b6b7b8b9c90b1b2b4b5b6b7b8b9d100b1b2b3b4b5b7b8b9c10b2b4d301b2",
    "vRILLIC CAPITAL LETTER Aa WITH BREVEfDIAERESISpBKHASIAN CHEa WITH DESCENDERsDZEdHAlLEUT KA",
    "iBARRED Oa WITH DIAERESISvSHKIR KAjEbIG YUSfNOCULAR OkLENDED YUSkROAD OMEGA",
    "kYELORUSSIAN-UKRAINIAN IyCCHEdHEa WITH DESCENDERiIAERESISjVERTICAL STROKExLOSED LITTLE YUS",
    "qROSSED OjDCHEdEbJEaRVeOUBLE MONOCULAR OlOhWEcZEaLOdHEcWEcZEbHEfEa WITH DIAERESISpFbL",
    "a WITH DESCENDERjHOOKeMIDDLE HOOKlTAILlMa WITH TAILlNa WITH DESCENDERjHOOKeLEFT HOOK",
    "jMIDDLE HOOKlTAILlRa WITH TICKlSa WITH DESCENDERrFITAeGHEa WITH DESCENDERjMIDDLE HOOKlSTROKE",
    "a AND HOOKpUPTURNoJEdHAa WITH DESCENDERjHOOKeSTROKEmRD SIGNiWEdIa WITH DIAERESISjGRAVEfMACRON",
    "mEa WITH BREVEfGRAVEmOaTAbIFIED AbBIG YUShCLOSED LITTLE YUSrEbLITTLE YUSkYATlZHITSA",
    "a WITH DOUBLE GRAVE ACCENT.CYRILLIC CAPITAL LETTER JEcKAa WITH DESCENDERjHOOKeSTROKE",
    "gVERTICAL STROKEwHAKASSIAN CHEnJEcOMI DEbJEcZJEeLJEdNJEdSJEdTJEdZJEgPPAeSIdLHAcITTLE YUSjJE",
    "dMONOCULAR OhGRAPH UKmNEUTRAL YERkJEdOa WITH DIAERESISpMEGAa WITH TITLOpTcPEa WITH DESCENDER",
    "jMIDDLE HOOKsSIdQAcREVERSED DZEdTSEdYUcZEkHAcOUND OMEGAlSCHWAa WITH DIAERESIStEMISOFT SIGNmHA",
    "bCHAdHAa WITH DESCENDERrORT Ia WITH TAILlUfWEdOFT DEcELbMcSIGNiTRAIGHT Ua WITH STROKEwTCHEdE",
    "a WITH DESCENDERjMIDDLE HOOKsSEbHEcSEcWEdWEdUa WITH DIAERESISiOUBLE ACUTEmMACRONmKaRAINIAN IE",
    "mVEcWEcYAaEbTcERUa WITH BACK YERiDIAERESISsIbNbUcZEa WITH DESCENDERiIAERESISpMLYAfHE",
    "a WITH BREVEfDESCENDERiIAERESISqWEkIGATURE A IEeEN GHEgTE TSExKAVYKAgLETTER MULTIOCULAR O",
    "nPALOCHKAiSMALL CAPITAL ELxPAYEROKhSMALL LETTER Aa WITH BREVEfDIAERESISpBKHASIAN CHE",
    "a WITH DESCENDERsDZEdHAlLEUT KAiBARRED Oa WITH DIAERESISvSHKIR KAjEbIG YUSfNOCULAR O",
    "kLENDED YUSkROAD OMEGAkYELORUSSIAN-UKRAINIAN IyCCHEdHEa WITH DESCENDERiIAERESIS",
    "jVERTICAL STROKExLOSED LITTLE YUSqROSSED OjDCHEdEbJEaRVeOUBLE MONOCULAR OlOhWEcZEaLOdHEcWEcZE",
    "bHEfEa WITH DIAERESISpFbLa WITH DESCENDERjHOOKeMIDDLE HOOKlTAILlMa WITH TAILlN",
    "a WITH DESCENDERjHOOKeLEFT HOOKjMIDDLE HOOKlTAILlRa WITH TICKlSa WITH DESCENDERrFITAeGHE",
    "a WITH DESCENDERjMIDDLE HOOKlSTROKEa AND HOOKpUPTURNoJEdHAa WITH DESCENDERjHOOKeSTROKE",
    "mRD SIGNiWEdIa WITH DIAERESISjGRAVEfMACRONmEa WITH BREVEfGRAVEmOaTAbIFIED AbBIG YUS",
    "hCLOSED LITTLE YUSrEbLITTLE YUSkYATlZHITSAa WITH DOUBLE GRAVE ACCENT.CYRILLIC SMALL LETTER JE",
    "cKAa WITH DESCENDERjHOOKeSTROKEgVERTICAL STROKEwHAKASSIAN CHEnJEcOMI DEbJEcZJEeLJEdNJEdSJE",
    "dTJEdZJEgPPAeSIdLHAcITTLE YUSjJEcONG-LEGGED DEoMONOCULAR OhGRAPH UKmNARROW OhEUTRAL YERkJEdO",
    "a WITH DIAERESISpMEGAa WITH TITLOpTcPALOCHKAhEa WITH DESCENDERjMIDDLE HOOKsSIdQAcREVERSED DZE",
    "dTSEdYUcZEkHAcOUND OMEGAgED VEkSCHWAa WITH DIAERESIStEMISOFT SIGNmHAbCHAdHAa WITH DESCENDER",
    "rORT Ia WITH TAILlUfWEdOFT DEcELbMcSIGNiTRAIGHT Ua WITH STROKEwTALL HARD SIGNjTEcYAThCHEdE",
    "a WITH DESCENDERjMIDDLE HOOKsHREE-LEGGED TEoSEbHEcSEcWEdWEdUa WITH DIAERESISiOUBLE ACUTE",
    "mMACRONmKaRAINIAN IElNBLENDED UKmVEcWEbIDE EShYAaEbTcERUa WITH BACK YERiDIAERESISsIbNbUcZE",
    "a WITH DESCENDERiIAERESISpMLYAfHEa WITH BREVEfDESCENDERiIAERESISqWEkIGATURE A IEeEN GHE",
    "gTE TSEuUBSCRIPT SMALL LETTER AbBEbYELORUSSIAN-UKRAINIAN IyCHEdDEbZEbHEeEFbLbScGHE",
    "a WITH UPTURNpHAaRD SIGNjIaEcKAcObPEcSHAdTSEdUbVEcYERUeZEbHE.CYRILLIC THOUSANDS SIGNxDAGGER",
    "a KNIFEfWITH LEFT GUARDkRIGHT GUARDvLET SYMBOLkNCERdGOdRK SHADEeUNGLASSESnSH SYMBOL",
    "gWITH LEFT UPTURNrED LOW LINEiOVERLINEiTRIANGLE-HEADED RIGHTWARDS ARROW.DEAF PERSON",
    "jCIDUOUS TREEkMAL EXPONENT SYMBOLpSEPARATOR KEY SYMBOLzREASE FONT SIZE SYMBOLxERcGREE CELSIUS",
    "hFAHRENHEITkSIGNjLIVERY TRUCKlTA EQUAL TOmNTISTRY SYMBOL LIGHT DOWN AND HORIZONTAL",
    "a WITH CIRCLEgTRIANGLEiWAVE.DENTISTRY SYMBOL LIGHT UP AND HORIZONTALa WITH CIRCLEgTRIANGLE",
    "iWAVE.DENTISTRY SYMBOL LIGHT VERTICAL AND BOTTOM LEFTeRIGHTmTOP LEFTeRIGHTjWAVEiWITH CIRCLE",
    "gTRIANGLE.DEPARTMENT STOREoRELICT HOUSE BUILDINGvSCENDING NODEmERET CAPITAL LETTER AYcBEE",
    "dCHEEeDEEdEFbLbMbNaGcRbSaHcTHcWcGAYdHbJEEdKAYdLONG AaHcEbIbOaOhOIbWcPEEdSHORT AaHcEbIbOaOiTEE",
    "cHEEeVEEdWUcYEEdZEEcHEEtSMALL LETTER AYcBEEdCHEEeDEEdEFbLbMbNaGcRbSaHcTHcWcGAYdHbJEEdKAY",
    "dLONG AaHcEbIbOaOhOIbWcPEEdSHORT AaHcEbIbOaOiTEEcHEEeVEEdWUcYEEdZEEcHEEuTa ISLAND",
    "kKTOP COMPUTERiWINDOWmVANAGARI ABBREVIATION SIGNqCUTE ACCENTmCARETfDANDAeIGIT EIGHTfFIVEdOUR",
    "eNINEeONEdSEVENeIXdTHREEeWOdZEROjOUBLE DANDAmGAP FILLERjRAVE ACCENTmHEAD MARK",
    "a WITH HEADSTROKEvSTROKEkJAIN OMhLETTER AaAbIbUbWbYcBAbBAcHAdCAaNDRA AbEbOhHAdDAbDAbDAbHAdHA",
    "dHAdEbFAcGAbGAcHAbHAdLOTTAL STOPmHAbEAVY YAiIaIcJAbHAcJAdKAbHAbHAeLAbLAbLAeMAaRWARI DDAlNAbGA",
    "cNAbNAdYAdOaEbOEdPAbHAdQAcRAbHAcRAdSAbHAbORT AbEbOgSAdTAbHAcTAbHAeUaEbUaEdVAbOCALIC LaLcRaR",
    "kYAbYAdZAbHAkOMcSIGN ANUSVARAhVAGRAHAiBHALEa WITH HOOKpCANDRABINDUa AVAGRAHAiTHREEeWOdVIRAMA",
    "sDOUBLE CANDRABINDU VIRAMAzEXTENDED BHALEa WITH HOOKyHIGH SPACING DOTqINVERTED CANDRABINDU",
    "uMINDUfNUKTAfPUSHPIKAiREVERSED NINE-LIKE BHALEySIDDHAMgPACING CANDRABINDUtVIRAMAeSARGA",
    "hWESTERN FIVE-LIKE BHALEpNINE-LIKE BHALE.DEVANAGARI STRESS SIGN ANUDATTAiUDATTAsVOWEL SIGN AA",
    "bIbUbWbYcCANDRA EbLONG EgOiEbIaIcOaEbOEdPRISHTHAMATRA EpSHORT EbOhUaEbUaEdVOCALIC LaLcRaR",
    ".DIAERESISgMETER SIGNjOND OPERATORiSHAPE WITH A DOT INSIDExTARGETgWITH BOTTOM HALF BLACK",
    "rLEFT HALF BLACKpRIGHT HALF BLACKqTOP HALF BLACKzE FACE-1b2b3b4b5b6hSEL LOCOMOTIVE",
    "pFFERENCE BETWEENqGIT EIGHTa COMMAfFULL STOPpFIVEa COMMAfFULL STOPnOURa COMMAfFULL STOPoNINE",
    "a COMMAfFULL STOPoONEa COMMAfFULL STOPnSEVENa COMMAfFULL STOPoIXa COMMAfFULL STOPnTHREE",
    "a COMMAfFULL STOPoWOa COMMAfFULL STOPnZEROa COMMAfFULL STOPrRAM FOR EARTHaLY HEAVENfUMAN",
    "nGREATER YANGdINlHEAVENLY EARTHnUMAN EARTHlLESSER YANGdINtMENSION ORIGIN",
    "oNGBAT CIRCLED SANS-SERIF DIGIT EIGHTfFIVEdOUReNINEeONEdSEVENeIXdTHREEeWOdZEROkNUMBER TEN",
    ".DINGBAT NEGATIVE CIRCLED DIGIT EIGHTfFIVEdOUReNINEeONEdSEVENeIXdTHREEeWOjNUMBER TEN",
    "kSANS-SERIF DIGIT EIGHTfFIVEdOUReNINEeONEdSEVENeIXdTHREEeWOdZEROkNUMBER TEN",
    ".DIRECT CURRENT SYMBOL FORM TWOxHITiSABLED CARiPPOINTED BUT RELIEVED FACErFACE",
    "oCONTINUOUS UNDERLINE SYMBOL.DISGUISED FACEmTTO MARKiVES AKURU DIGIT EIGHTfFIVEdOUReNINEeONE",
    "dSEVENeIXdTHREEeWOdZEROjOUBLE DANDAmEND OF TEXT MARKqGAP FILLERkINITIAL RAkLETTER AaAcBAbHA",
    "dCAbHAdDAbDAbHAdHAdEbGAbHAdHAcIaIcJAcKAbHAdLAbLAdMAcNAbGAcNAcYAdObPAbHAdRAcSAbHAcSAdTAbHAcTA",
    "dUaUcVAcYAbYAdZAjMEDIAL RAcYAjPREFIXED NASAL SIGNtSIGN ANUSVARAiCANDRABINDUlHALANTAhNUKTA",
    "kVIRAMAfOWEL SIGN AAbIcEbIaIcObUaUwIDESdNG MASKhSION SIGNdLASHfTIMESlORCE SYMBOLmYA LAMP",
    "hZZY FACEeSYMBOLlNA DOUBLE HELIXpO NOT LITTER SYMBOLsCUMENTa WITH PICTUREhTEXTa AND PICTURE",
    ".DODOcES NOT CONTAIN AS MEMBERgNORMAL SUBGROUPa OR EQUAL.DOES NOT DIVIDE",
    "a WITH REVERSED NEGATION SLASH.DOES NOT FORCEfPRECEDEa OR EQUALoOVEfSUCCEEDa OR EQUALxGa FACE",
    "fRA ABBREVIATION SIGNrLETTER AaAbIbUcBAbHAdCAbHAdDAbDAbHAdHAdEbGAbHAdHAcIaIcJAbHAdKAbHAdLAcMA",
    "cNAbGAcNAcYAdObPAbHAdRAbRAdSAbHAcSAdTAbHAcTAbHAeUaUcVAcYAjSIGN ANUSVARAiNUKTAfVIRAMAeSARGA",
    "mVOWEL SIGN AAbIbUcEbIaIcObUaUcVOCALIC RaRzLLAR SIGNiPHINfMINO TILE HORIZONTAL BACKf-00-00b1",
    "b2b3b4b5b6e1-00b1b2b3b4b5b6e2-00b1b2b3b4b5b6e3-00b1b2b3b4b5b6e4-00b1b2b3b4b5b6e5-00b1b2b3b4b5",
    "b6e6-00b1b2b3b4b5b6qVERTICAL BACKf-00-00b1b2b3b4b5b6e1-00b1b2b3b4b5b6e2-00b1b2b3b4b5b6e3-00b1",
    "b2b3b4b5b6e4-00b1b2b3b4b5b6e5-00b1b2b3b4b5b6e6-00b1b2b3b4b5b6yNG SIGNgKEYeORcT ABOVEfMINUS",
    "fOPERATORiPLUSfTED CIRCLEfROSSfFENCEfLINE FACEjOBELOSgRIGHT-POINTING ANGLEuSOLIDUSgQUARE",
    "gTRANSPOSITION MARKERzUBLE ACUTE ACCENTmCIRCLED DIGIT EIGHTfFIVEdOUReNINEeONEdSEVENeIXdTHREE",
    "eWOjNUMBER TENrOLON EQUALkURLY LOOPkDAGGERfOWN TACKjEXCLAMATION MARK",
    "qHIGH-REVERSED-9 QUOTATION MARK.DOUBLE HYPHENgINTEGRALeRSECTIONmLEFT ARC GREATER-THAN BRACKET",
    ".DOUBLE LOGICAL ANDdORiW LINEf-9 QUOTATION MARKqREVERSED-9 QUOTATION MARK",
    ".DOUBLE NESTED GREATER-THANmLESS-THANa WITH UNDERBAR.DOUBLE OBLIQUE HYPHENoPLUSdRECEDESgIME",
    "a QUOTATION MARKuQUESTION MARKnRIGHT ARC LESS-THAN BRACKET.DOUBLE SOLIDUS OPERATOR",
    "pQUARE INTERSECTIONmUNIONlTACKED COMMAlROKE NOT SIGNoUBSETeCCEEDSgPERSETgSPENSION MARKpUNION",
    "eP TACKhVERTICAL BARa DOUBLE LEFT TURNSTILEoRIGHT TURNSTILEwLEFT TURNSTILEsLINEnWAVY OVERLINE",
    "o-ENDED MULTIMAPoLINE EQUAL TO OR GREATER-THANmLESS-THANvSLANTED EQUAL TO OR GREATER-THAN",
    "mLESS-THANvGREATER-THAN OR EQUAL TOyLESS-THAN OR EQUAL TO.DOUBLE-STRUCK CAPITAL CbGAMMAfHbNbP",
    "aIcQbRbZjITALIC CAPITAL DjSMALL DbEbIbJoN-ARY SUMMATIONpSMALL GAMMAfPIqD FEMALE SIGN",
    "lMALE SIGNjSYMBOLlGHNUTgVE OF PEACElWN ARROWHEADjFISH TAILjRIGHT DIAGONAL ELLIPSISxTACK",
    "a WITH CIRCLE BELOWx-POINTING RED TRIANGLEmSMALL RED TRIANGLEsTRIANGLE WITH LEFT HALF BLACK",
    "pRIGHT HALF BLACK.DOWNWARD FACING HOOKa WITH DOTnNOTCHED HOOKa WITH DOT.DOWNWARDS ANCORAfRROW",
    "a AND RIGHT ONE EIGHTH BLOCK.DOWNWARDS ARROW FROM BARiLEFTWARDS OF UPWARDS ARROW",
    ".DOWNWARDS ARROW TO BARgWITH CORNER LEFTWARDSqDOUBLE STROKEnEQUILATERAL ARROWHEAD",
    "vHORIZONTAL STROKErLARGE TRIANGLE ARROWHEADyMEDIUM TRIANGLE ARROWHEADzNOTCHED TAIL",
    "mSMALL EQUILATERAL ARROWHEADvTRIANGLE ARROWHEADyTIP LEFTWARDSjRIGHTWARDSzBLACK ARROW",
    "fCIRCLED WHITE ARROWzCOMPRESSED ARROWqDASHED ARROWlOUBLE ARROWmFINGER-POST ARROW",
    "rHARPOON WITH BARB LEFT BESIDE DOWNWARDS HARPOON WITH BARB RIGHT",
    ".DOWNWARDS HARPOON WITH BARB LEFT BESIDE UPWARDS HARPOON WITH BARB RIGHT",
    ".DOWNWARDS HARPOON WITH BARB LEFT FROM BARiTO BARhWARDSjRIGHT FROM BARiTO BARhWARDS",
    ".DOWNWARDS HEAVY ARROWfCOMPRESSED ARROWwPAIRED ARROWSnQUADRUPLE ARROWpROCKETgSANS-SERIF ARROW",
    "pQUARED ARROWnTRIANGLE ARROWHEADk-HEADED ARROWa LEFTWARDS OF UPWARDS TRIANGLE-HEADED ARROW",
    ".DOWNWARDS TRIANGLE-HEADED ARROW TO BARgWITH BOLD SHAFTkDOUBLE HORIZONTAL STROKEyHEAVY SHAFT",
    "lLONG TIP LEFTWARDSjRIGHTWARDStMEDIUM SHAFTmNARROW SHAFTmVERY HEAVY SHAFT",
    ".DOWNWARDS TRIANGLE-HEADED DASHED ARROWmPAIRED ARROWSnZIGZAG ARROWzPLE ARROWlWO HEADED ARROW",
    "n-HEADED ARROW WITH TRIANGLE ARROWHEADS.DOWNWARDS WHITE ARROWa WITHIN TRIANGLE ARROWHEAD",
    ".DOWNWARDS ZIGZAG ARROWvRACHMA SIGNjFTING POINT RIGHTWARDS ARROW.DRAGONa FACEjESS",
    "dIVE SLOW SIGNnOMEDARY CAMELmOLING FACEkP OF BLOODjLETfUM WITH DRUMSTICKStUCKcMPLING",
    "gPLOYAN AFFIX ATTACHED E HOOKgI HOOKgLEFT-TO-RIGHT SECANTuSECANTgTAILcNGENTa HOOKvHIGH ACUTE",
    "fCIRCLEgDOTdGRAVEfLINEdONG GRAVEkTIGHT ACUTElVERTICALa SECANTpWAVEjLEFT HORIZONTAL SECANT",
    "vOW ACUTEeRROWfCIRCLEgDOTdGRAVEfLINEdONG GRAVEkTIGHT ACUTElVERTICALa SECANTpWAVE",
    "iMID HORIZONTAL SECANTrVERTICAL SECANTtRIGHT HORIZONTAL SECANT.DUPLOYAN DOUBLE MARKlLETTER A",
    "aOUdBbDa ScHcEaEbUcFa NdGa R SfHaLcIaEcJa Ma SdNa SdSa WITH DOTkWITH DOTaS INSIDE AND ABOVE",
    ".DUPLOYAN LETTER Ka MbR SeKcLaHbONG IbUgMa Na SdSbWITH DOTkNa Ma SdSbWITH DOTjASAL AbIbObUhO",
    "aAbOHcUbWcPa NcERNIN AMbNjRa ScHbOMANIAN IbUkSa Ja SdKa RdMbNbPa RdSbTa RdWITH DOTa BELOW",
    "pHORT IgLOAN ANcDHcEEbHbNcJbONbWcUhTa R SdScHcUa NcHbIcVaOCALIC MjWa RcAbEIcHbIbOaWdXaWcYE",
    "jPUNCTUATION CHINOOK FULL STOP.DUPLOYAN SIGN O WITH CROSSrTHICK LETTER SELECTOR.DVD",
    "dE-MAIL SYMBOLmAGLEdRa OF MAIZEfRICEhWITH HEARING AIDrTHa GLOBE AMERICAShSIA-AUSTRALIA",
    "oEUROPE-AFRICAsROUNDkST SYRIAC CROSSqDITORIAL CORONISqGGbYPTIAN HIEROGLYPH A001b2b3b4b5aAc6aA",
    "bBc7b8b9c10b1b2b3b4aAc5b6b7aAc8b9c20b1b2b3b4b5b6b7b8b9c30b1b2aAc3b4b5b6b7b8b9c40aAc1b2aAc3aA",
    "c4b5aAc6b7b8b9c50b1b2b3b4b5b6b7b8b9c60b1b2b3b4b5b6b7b8b9c70dA001b2b3b4b5b6b7aAbBc8b9c10b1b2b3",
    "b4b5b6b7b8b9c20b1b2b3b4b5b6b7b8b9c30b1b2fB001b2b3b4b5aAc6b7b8b9dEGIN ENCLOSUREjSEGMENT",
    "hWALLED ENCLOSUREwC001b2aAbBbCc3b4b5b6b7b8b9c10aAc1b2b3b4b5b6b7b8b9c20b1b2b3b4eD001b2b3b4b5b6",
    "b7b8aAc9c10b1b2b3b4b5b6b7b8b9c20b1b2b3b4b5b6b7aAc8b9c30b1aAc2b3b4aAc5b6b7b8b9c40b1b2b3b4b5b6",
    "aAc7b8aAc9c50aAbBbCbDbEbFbGbHbIc1b2aAc3b4aAc5b6b7b8b9c60b1b2b3b4b5b6b7aAbBbCbDbEbFbGbHfE001b2",
    "b3b4b5b6b7b8aAc9aAd10b1b2b3b4b5b6aAc7aAc8b9c20aAc1b2b3b4b5b6b7b8aAc9c30b1b2b3b4aAc6b7b8",
    "dND ENCLOSUREjSEGMENThWALLED ENCLOSUREuF001aAc2b3b4b5b6b7b8b9c10b1b2b3aAc4b5b6b7b8b9c20b1aAc2",
    "b3b4b5b6b7b8b9c30b1aAc2b3b4b5b6b7aAc8aAc9c40b1b2b3b4b5aAc6aAc7aAc8b9c50b1aAbBbCc2b3dULL BLANK",
    "kG001b2b3b4b5b6aAc7aAbBc8b9c10b1aAc2b3b4b5b6b7b8b9c20aAc1b2b3b4b5b6aAc7b8b9c30b1b2b3b4b5b6aA",
    "c7aAc8b9c40b1b2b3aAc4b5aAc6b7b8b9c50b1b2b3b4eH001b2b3b4b5b6aAc7b8dALF BLANKfLOST SIGN",
    "nORIZONTAL JOINERrI001b2b3b4b5aAc6b7b8b9aAd10aAc1aAc2b3b4b5dNSERT AT BOTTOMa ENDdSTARTmMIDDLE",
    "gTOPa ENDdSTARTtK001b2b3b4b5b6b7b8eL001b2aAc3b4b5b6aAc7b8dOST SIGNjM001aAbBc2b3aAc4b5b6b7b8b9",
    "c10aAc1b2aAbBbCbDbEbFbGbHc3b4b5aAc6aAc7aAc8b9c20b1b2aAc3b4aAc5b6b7b8aAc9c30b1aAc2b3aAbBc4b5b6",
    "b7b8b9c40aAc1b2b3b4dIRROR HORIZONTALLYsODIFIER DAMAGEDa AT BOTTOMa AND ENDhENDdSTART",
    "a AND TOP ENDyENDdSTARTa AND BOTTOMgTOPnTOPa AND ENDhENDdSTARTa AND BOTTOM END",
    ".EGYPTIAN HIEROGLYPH N001b2b3b4b5b6b7b8b9c10b1b2b3b4b5b6b7b8aAbBc9c20b1b2b3b4b5aAc6b7b8b9c30",
    "b1b2b3aAc4aAc5aAc6b7aAc8b9c40b1b2dL001b2b3b4b5aAc6b7b8b9c10b1b2b3b4b5b6b7aAc8b9c20eU001b2b3b4",
    "b5b6b7b8b9c10aAc1aAc2b3b4b5b6b7b8aAc9c20b1b2aAgO001aAc2b3b4b5aAc6aAbBbCbDbEbFc7b8b9c10aAbBbC",
    "c1b2b3b4b5b6b7b8b9aAd20aAc1b2b3b4aAc5aAc6b7b8b9aAd30aAc1b2b3aAc4b5b6aAbBbCbDc7b8b9c40b1b2b3b4",
    "b5b6b7b8b9c50aAbBc1dVERLAY MIDDLEoP001aAc2b3aAc4b5b6b7b8b9c10b1eQ001b2b3b4b5b6b7eR001b2aAc3aA",
    "bBc4b5b6b7b8b9c10aAc1b2b3b4b5b6aAc7b8b9c20b1b2b3b4b5b6b7b8b9eS001b2aAc3b4b5b6aAc7b8b9c10b1b2",
    "b3b4aAbBc5b6b7aAc8b9c20b1b2b3b4b5b6aAbBc7b8b9c30b1b2b3b4b5aAc6b7b8b9c40b1b2b3b4b5b6eT001b2b3",
    "aAc4b5b6b7aAc8aAc9aAd10b1aAc2b3b4b5b6aAc7b8b9c20b1b2b3b4b5b6b7b8b9c30b1b2aAc3aAc4b5b6",
    "dALL LOST SIGNoU001b2b3b4b5b6aAbBc7b8b9c10b1b2b3b4b5b6b7b8b9c20b1b2b3aAc4b5b6b7b8b9aAd30b1b2",
    "aAc3b4b5b6b7b8b9c40b1b2eV001aAbBbCbDbEbFbGbHbIc2aAc3b4b5b6b7aAbBc8b9c10b1aAbBbCbDc2aAbBc3b4b5",
    "b6b7b8b9c20aAbBbCbDbEbFbGbHbIbJbKbLc1b2b3aAc4b5b6b7b8aAc9aAd30aAc1aAc2b3aAc4b5b6b7aAc8b9c40aA",
    "eERTICAL JOINERpW001b2b3aAc4b5b6b7b8b9aAd10aAc1b2b3b4aAc5b6b7aAc8aAc9c20b1b2b3b4aAc5",
    "dIDE LOST SIGNoX001b2b3b4aAbBc5b6aAc7b8aAfY001aAc2b3b4b5b6b7b8eZ001b2aAbBbCbDc3aAbBc4aAc5aAc6",
    "b7b8b9c10b1b2b3b4b5aAbBbCbDbEbFbGbHbIc6aAbBbCbDbEbFbGbHyIGHT PETALLED OUTLINED BLACK FLORETTE",
    ".EIGHT POINTED BLACK STARkPINWHEEL STARnRECTILINEAR BLACK STAR.EIGHT SPOKED ASTERISK",
    "pTEARDROP-SPOKED PROPELLER ASTERISK.EIGHTH NOTEkJECT SYMBOLlLBASAN LETTER AbBEcCEbHEdDEbHEdE",
    "aIcFEcGEbHAMMAeEcJEdHEcIbJEcKEbHEdLEbLEdMEcNAbDEcEbJEdObPEcQEcREbREdSEbHEdTEbHEdUbVEcXEcYbZE",
    "bHEqECTRIC ARROWfLIGHT BULBkPLUGeTORCHgAL INTERSECTIONuMENT OFa OPENING DOWNWARDSjUPWARDS",
    "pWITH DOT ABOVEjLONG HORIZONTAL STROKEwOVERBARhTWO HORIZONTAL STROKESwUNDERBAR",
    "iVERTICAL BAR AT END OF HORIZONTAL STROKE.ELEPHANTfVATORgFbYMAIC LETTER ALEPHeYINeBETHeDALETH",
    "gGIMELfHEaTHeKAPHeLAMEDHgMEMdNUNdPEcQOPHeRESHeSADHEdMEKHfHINeTAWcETHeWAWdYODHeZAYIN",
    "lIGATURE ZAYIN-YODH.EM DASHeQUADeSPACEgOJI COMPONENT BALDeCURLY HAIRkRED HAIRiWHITE HAIR",
    "uMODIFIER FITZPATRICK TYPE-1-2d3b4b5b6.EMPHASIS SYMBOLmTY DOCUMENTiNESTdOTEa PADbGEjPAGEaS",
    "fSETa WITH LEFT ARROW ABOVEqOVERBARhRIGHT ARROW ABOVErSMALL CIRCLE ABOVE.EN DASHeQUADeSPACE",
    "gD OF PROOFiWITH LEFTWARDS ARROW ABOVE.ENTER SYMBOLkVELOPEa WITH DOWNWARDS ARROW ABOVE",
    "vLIGHTNINGwQUAL AND PARALLEL TOpTO BY DEFINITIONnOR GREATER-THANmLESS-THANjPRECEDESiSUCCEEDS",
    "pS COLONfSIGNa ABOVE LEFTWARDS ARROWpPLUS SIGNjRIGHTWARDS ARROWqTILDE OPERATOR",
    "tND SLANTED PARALLELa WITH TILDE ABOVE.EQUALS SIGN WITH BUMPY ABOVElDOT BELOWjINFINITY BELOW",
    "oTWO DOTS ABOVE AND TWO DOTS BELOW.EQUALS WITH ASTERISKrIANGULAR TOkVALENT TO",
    "cWITH FOUR DOTS ABOVE.ERASE TO THE LEFTeRIGHTqIS FORM ONEdTWOlROR-BARRED BLACK CIRCLEgDIAMOND",
    "hSQUAREmWHITE CIRCLEgDIAMONDhSQUAREySTIMATED SYMBOLiSiTHIOPIC COLON",
    "dMBINING GEMINATION AND VOWEL LENGTH MARKvMARKpVOWEL LENGTH MARKyMAfDIGIT EIGHTfFIVEdOUReNINE",
    "eONEdSEVENeIXdTHREEeWOjFULL STOPjNUMBER EIGHTYgFIFTYeORTYfHUNDREDhNINETYgSEVENTYgIXTYfTEN",
    "a THOUSANDlHIRTYfWENTYnPARAGRAPH SEPARATORsREFACE COLONnQUESTION MARKnSECTION MARKkMICOLON",
    "iYLLABLE BAaAcBAaAcEaEcIbObUcEaEcIbOaAcUbWAbEaEcIdCAaAcCAaAcEaEcHAaAcEaEcHAaAcEaEcIbObUcIbObU",
    "cIbObUcEaEcHAaAcEaEcIbOaAcUbWAdIbOaAcUbWAdDAaAcDAaAcEaEcHAAcEaEcIbObUcIbOaAcUbWAdEaEcIbOaAcU",
    "bWAcZAAcEaEcIbObUdFAaAcEaEcIbObUbWAbEaEcIcYAdGAaAcEaEcGAaAcEaEcIbObUbWAaAcEaEcIdIbLOTTAL AaA",
    "cEaEcIbOaAcUbWAjOaAcUaRAGE BWEEcIdFWEEcIdGWEaEcIdHHWAeKWEaEcIdMWEEcIdPWEEcIdQWEaEcIjWAaAcEaE",
    "cIcYAaAcEaEcIbObUdHAaAcEaEcHAaAcEaEcIbObUbWAbEaEcIcYAaAcEaEcIbObUdIbOaAcUcJAaAcEaEcIbOaAcUbWA",
    "dKAaAcEaEcIbOaAcUbWAaAcEaEcIcXAaAcEaEcIbObUbWAaAcEaEcIdYAaAcEaEcIbObUdLAaAcEaEcIbOaAcUbWAdMA",
    "aAcEaEcIbOaAcUbWAbEaEcIcYAdNAaAcEaEcIbOaAcUbWAcYAaAcEaEcIbOaAcUbWAePAaAcEaEcHAaAbRYNGEAL AaA",
    "cEaEcIbObUkEaEcIbOaAcUbWAdIbOaAcUbWAbEaEcIdQAaAcEaEcHAaAcEaEcIbObUbWAaAcEaEcIdIbOaAcUbWAaAcE",
    "aEcIcYAaAcEaEcIbObUdRAaAcEaEcIbOaAcUbWAcYAdSAaAcEaBATBEIT BWAdFWAdMWAdPWAlEcHAaAcEaEcIbOaAcU",
    "bWAdIbOaAcSAaAcEaEcIbObUcUbWAcZAaAcEaEcIbObUbWAeTAaAcEaEcHAaAcEaEcIbOaAcUbWAdIbOaAcSAaAcEaEcI",
    "bObUbWAdTHAAcEaEcIbObUdUbWAcZAaAcEaEcIbOaAcUdVAaAcEaEcIbObUbWAdWAaAcEaEcIbOaAcUcXAaAcEaEcIbO",
    "aAcUbWAaAcEaEcIcYAaAcEaEcIbObUdYAaAcEaEcIbOaAcUcZAaAcEaEcHAaAcEaEcIbObUbWAdIbOaAcUbWAcZAaAcE",
    "aEcIbObUmTONAL MARK CHIRETgDERETa-HIDETkIFATfHIDETfKENATeURTeRIKRIKgSHORT RIKRIKmYIZET",
    "qWORDSPACErULER CONSTANTmRO SIGNf-CURRENCY SIGNoPEAN CASTLEgPOST OFFICEtVERGREEN TREEnXCESS",
    "dLAMATION MARKeQUESTION MARKxPRESSIONLESS FACErTENDED ARABIC-INDIC DIGIT EIGHTfFIVEdOUReNINE",
    "eONEdSEVENeIXdTHREEeWOdZERO.EXTRATERRESTRIAL ALIENsEMELY HEAVY FIVE SPOKED ASTERISK",
    "uGREEK CROSSlSALTIREgIX SPOKED ASTERISKtWHITE CIRCLEgSQUARE.EYEaGLASSEShS",
    "eFACE HOLDING BACK TEARSsMASSAGEhPALMeSAVOURING DELICIOUS FOODxCREAMING IN FEAR",
    "rTHROWING A KISSpWITH COLD SWEATiWBOY HATkDIAGONAL MOUTHoFINGER COVERING CLOSED LIPS",
    ".FACE WITH HEAD-BANDAGEmLOOK OF TRIUMPHpMEDICAL MASKlONOCLEhNO GOOD GESTUREpOK GESTURE",
    "jNE EYEBROW RAISEDrPEN EYES AND HAND OVER MOUTHyMOUTHa AND COLD SWEAToVOMITING",
    "tPARTY HORN AND PARTY HATxEEKING EYEkLEADING EYESnROLLING EYESmSTUCK-OUT TONGUE",
    "a AND TIGHTLY-CLOSED EYEStWINKING EYE.FACE WITH TEARS OF JOYlHERMOMETER",
    "lUNEVEN EYES AND WAVY MOUTH.FACE WITHOUT MOUTHpSIMILE SIGNlTORYfIRYdLAFELeLEN LEAF",
    "hING DIAGONAL CROSSING NORTH EAST ARROWqRISING DIAGONALyIN WHITE CIRCLE IN BLACK SQUARE",
    ".FAMILYeRSI SYMBOLkTHER CHRISTMASoX ICONeMACHINEkEARFUL FACEjTHERfMALE SIGN",
    "iININE ORDINAL INDICATORyNCEReRRIS WHEELiYeIELD HOCKEY STICK AND BALLzGURE DASHeSPACE",
    "kLE CABINEThFOLDERiM FRAMESgPROJECTORmNITE PART INTEGRALsREa ENGINEfXTINGUISHERnCRACKER",
    "hWORK SPARKLERjSgST PLACE MEDALlQUARTER MOONa SYMBOLgWITH FACEwSTRONG ISOLATEsSH",
    "a CAKE WITH SWIRL DESIGNxEYEdING POLE AND FISHsTED HAND SIGNoVE DOT MARKePUNCTUATION",
    "tLAG IN HOLEjMINGOfT SHOEfBREADfNESSgEUR-DE-LISjXED BICEPSlOPPY DISKiRAL HEARTjWER",
    "a PLAYING CARDSmUNCTUATION MARKvUSHED FACEjTEdYaING DISCeENVELOPEiSAUCERmOGaGYdLDER",
    "cING HAND FANoNDUEeOTaPRINTSiR ALLeCESdK AND KNIFEa WITH PLATEvED PARAGRAPHOSoINGeTUNE COOKIE",
    "mUNTAINfR BALLOON-SPOKED ASTERISKxCLUB-SPOKED ASTERISKtORNER ARROWS CIRCLING ANTICLOCKWISE",
    ".FOUR DOT MARKePUNCTUATIONpLEAF CLOVERlPOINTED BLACK STARsTEARDROP-SPOKED ASTERISK",
    "z-PER-EM SPACEnTH ROOTjX FACEhRACTION NUMERATOR ONEnSLASHlME WITH AN XePICTUREhTILES",
    "oEEZING FACEkNCH FRANC SIGNiIESkIED SHRIMPkOG FACEgNT-FACING BABY CHICK",
    "rTILTED SHADOWED WHITE RIGHTWARDS ARROW.FROWNaING FACE WITH OPEN MOUTH.FUEL PUMPhLL BLOCK",
    "fMOON SYMBOLgWITH FACEoOUTER JOINkSTOPfWIDTH AMPERSANDiPOSTROPHEjSTERISKiBROKEN BARkCENT SIGN",
    "iIRCUMFLEX ACCENTqOLONdMMAbERCIAL ATnDIGIT EIGHTfFIVEdOUReNINEeONEdSEVENeIXdTHREEeWOdZERO",
    "jOLLAR SIGNlEQUALS SIGNkXCLAMATION MARKqFULL STOPjGRAVE ACCENTkEATER-THAN SIGNrHYPHEN-MINUS",
    "mLATIN CAPITAL LETTER AbBbCbDbEbFbGbHbIbJbKbLbMbNbObPbQbRbSbTbUbVbWbXbYbZqSMALL LETTER AbBbC",
    "bDbEbFbGbHbIbJbKbLbMbNbObPbQbRbSbTbUbVbWbXbYbZtEFT CURLY BRACKETnPARENTHESISlSQUARE BRACKET",
    "oWHITE PARENTHESISuSS-THAN SIGNnOW LINEiMACRONgNOT SIGNhUMBER SIGNlPERCENT SIGNlLUS SIGN",
    "iOUND SIGNkQUESTION MARKlOTATION MARKoREVERSE SOLIDUSoIGHT CURLY BRACKETnPARENTHESIS",
    "lSQUARE BRACKEToWHITE PARENTHESISxSEMICOLONiOLIDUShTILDEfVERTICAL LINEnWON SIGNiYEN SIGN",
    "qNCTION APPLICATIONrERAL URNjSEeGAME DIEgRLICfEARa WITH HANDLESiOUT HUBoM STONEgINIeNIE",
    "dOMETRIC PROPORTIONlALLY EQUAL TOfIVALENT TOyRGIAN CAPITAL LETTER AENcNcBANdCANcHARcINdILdDON",
    "dENcGANcHANeHAEbRcEbIEcOEdINcJHANdILdKANcHAReLASdMANdNARdONcPARcHAReQARdRAEdSANcHINeTANbRdUN",
    "cVINdWEcXANdYNcZENcHARtLETTER AENcINcNcBANdCANcHARcINdILdDONdELIFIeNcFIcGANcHANeHAEbRaD SIGN",
    "iEbIEcOEdINcJHANdILdKANcHAReLABIAL SIGNjSdMANdNARdONcPARcHAReQARdRAEdSANcHINeTANbRcURNED GAN",
    "kUNcVINdWEcXANdYNcZENcHARlMTAVRULI CAPITAL LETTER AENcINcNcBANdCANcHARcINdILdDONdELIFIeNcFI",
    "cGANcHANeHAEbRaD SIGNiEbIEcOEdINcJHANdILdKANcHAReLABIAL SIGNjSdMANdNARdONcPARcHAReQARdRAEdSAN",
    "cHINeTANbRcURNED GANkUNcVINdWEcXANdYNcZENcHAR.GEORGIAN PARAGRAPH SEPARATORtSMALL LETTER AENcN",
    "cBANdCANcHARcINdILdDONdENcGANcHANeHAEbRcEbIEcOEdINcJHANdILdKANcHAReLASdMANdNARdONcPARcHAReQAR",
    "dRAEdSANcHINeTANbRdUNcVINdWEcXANdYNcZENcHARyRMAN PENNY SIGNpTA MARKiHOSTeIMEL SYMBOL",
    "kNGER ROOTjRAFFE FACEjLaS SYMBOLlLAGOLITIC CAPITAL LETTER AZUdBIG YUSgUKYeCAUDATE CHRIVI",
    "nHRIVIgDJERVIfOBROeZELOfFITAdRITUfGLAGOLIhHERUeIaNITIAL IZHElOTATED BIG YUShSMALL YUSqZHE",
    "bITSAhKAKOeLATINATE MYSLITEpJUDIJEhMYSLITEhNASHIfONUcTUdPEbOKOJIgRITSIfSHAbTAaPICgLOVO",
    "eMALL YUSa WITH TAILsPIDERY HAkTROKUTASTI AlSIcVRIDOgUKUdVEDEeYATIdERIbUcSTUeObUcZEMLJA",
    "fHIVETEwSMALL LETTER AZUdBIG YUSgUKYeCAUDATE CHRIVInHRIVIgDJERVIfOBROeZELOfFITAdRITUfGLAGOLI",
    "hHERUeIaNITIAL IZHElOTATED BIG YUShSMALL YUSqZHEbITSAhKAKOeLATINATE MYSLITEpJUDIJEhMYSLITE",
    "hNASHIfONUcTUdPEbOKOJIgRITSIfSHAbTAaPICgLOVOeMALL YUSa WITH TAILsPIDERY HAkTROKUTASTI AlSI",
    "cVRIDOgUKUdVEDEeYATIdERIbUcSTUeObUcZEMLJAfHIVETE.GLASS OF MILKlEICH STARKkOBE WITH MERIDIANS",
    "rVESdWING STARlOAL NETfTcGGLESfLFEReNGGONGgOSEdRILLAfTHIC LETTER AHSAdIHVUSgBAIRKANhDAGSeEIS",
    "dFAIHUfGIBAeHAGLdWAIRfIGGWSeUJAeJERdKUSMAfLAGUSfMANNAfNAUTHSfINE HUNDREDiTYgOTHALfPAIRTHRA",
    "iQAIRTHRAiRAIDAfSAUILfTEIWSeHIUTHgURUSeWINJAsRADUATION CAPlNTHA AU LENGTH MARKoLETTER AaAbIbU",
    "cBAbHAdCAbHAdDAbDAbHAdHAdEEcGAbHAdHAcIaIcJAbHAdKAbHAdLAbLAdMAcNAbGAcNAcYAdOOcPAbHAdRAcSAbHA",
    "cSAdTAbHAcTAbHAeUaUcVAbEDIC ANUSVARAiDOUBLE ANUSVARAuOCALIC LaLcRaRkYAjOMcSIGN ANUSVARA",
    "hVAGRAHAiCANDRABINDUkOMBINING ANUSVARA ABOVEyNUKTAfPLUTAfVIRAMAeSARGAmVOWEL SIGN AAbIbUcEEcI",
    "aIcOOcUaUcVOCALIC LaLcRaR.GRAPESdVE ACCENTkEATER-THAN ABOVE DOUBLE-LINE EQUAL ABOVE LESS-THAN",
    ".GREATER-THAN ABOVE LESS-THAN ABOVE DOUBLE-LINE EQUAL.GREATER-THAN ABOVE RIGHTWARDS ARROW",
    "qSIMILAR ABOVE LESS-THANpOR EQUALpLANTED EQUAL ABOVE LESS-THAN ABOVE SLANTED EQUAL",
    ".GREATER-THAN AND NOT APPROXIMATEpSINGLE-LINE NOT EQUAL TO.GREATER-THAN BESIDE LESS-THAN",
    "pUT NOT EQUAL TOfIVALENT TOvCLOSED BY CURVEa ABOVE SLANTED EQUAL",
    ".GREATER-THAN EQUAL TO OR LESS-THANvOR APPROXIMATElEQUAL TOfIVALENT TOnLESS-THAN",
    "jSLANTED EQUAL TOa WITH DOT ABOVEa LEFTkINSIDE.GREATER-THAN OVER EQUAL TOjLAPPING LESS-THAN",
    "vSIGNeWITH CIRCLE INSIDEnDOTdQUESTION MARK ABOVE.GREEK ACROPHONIC ATTIC FIFTYa STATERS",
    "hTALENTSgHOUSANDa STATERSuVEa HUNDREDa STATERShTALENTSpSTATERShTALENTSgHOUSANDa TALENTS",
    "vONE DRACHMAhHALFdUNDRED STATERShTALENTSpQUARTERhTHOUSAND STATERShTALENTSuTEN MNASeSTATERS",
    "hTALENTSgHOUSAND STATERS.GREEK ACROPHONIC CARYSTIAN FIVE HUNDREDvYRENAIC TWO DRACHMAS",
    "vDELPHIC FIVE MNASrEPIDAUREAN FIVE HUNDREDmTWOa DRACHMASxHERAEUM ONE PLETHRONrMIONIAN FIFTY",
    "fONEdTENoMESSENIAN TENnNAXIAN FIVE HUNDREDtSTRATIAN FIFTY MNAStTHESPIAN FIFTYdVE HUNDRED",
    "hTHOUSANDnONEa HUNDREDhTHOUSANDmTENcHIRTYeREE HUNDREDmWOlROEZENIAN FIFTYa ALTERNATE FORMsVE",
    "a HUNDREDmTENa ALTERNATE FORM.GREEK ANO TELEIAjROURA SIGNjTABE SIGNlBETA SYMBOL",
    "lCAPITAL DOTTED LUNATE SIGMA SYMBOL.GREEK CAPITAL KAI SYMBOLkLETTER ALPHAa WITH DASIA",
    "a AND OXIAa AND PROSGEGRAMMENIxPERISPOMENIa AND PROSGEGRAMMENI",
    ".GREEK CAPITAL LETTER ALPHA WITH DASIA AND PROSGEGRAMMENIoVARIAa AND PROSGEGRAMMENI",
    ".GREEK CAPITAL LETTER ALPHA WITH MACRONgOXIAePROSGEGRAMMENInSILIa AND OXIA",
    "a AND PROSGEGRAMMENIxPERISPOMENIa AND PROSGEGRAMMENI",
    ".GREEK CAPITAL LETTER ALPHA WITH PSILI AND PROSGEGRAMMENIoVARIAa AND PROSGEGRAMMENI",
    ".GREEK CAPITAL LETTER ALPHA WITH TONOSfVARIAeRACHYqRCHAIC SAMPInBETAeCHIdDELTAfEPSILON",
    "a WITH DASIAa AND OXIAeVARIApOXIAePSILIa AND OXIAeVARIApTONOSfVARIArTAa WITH DASIAa AND OXIA",
    "a AND PROSGEGRAMMENIxPERISPOMENIa AND PROSGEGRAMMENI",
    ".GREEK CAPITAL LETTER ETA WITH DASIA AND PROSGEGRAMMENIoVARIAa AND PROSGEGRAMMENI",
    ".GREEK CAPITAL LETTER ETA WITH OXIAePROSGEGRAMMENInSILIa AND OXIAa AND PROSGEGRAMMENI",
    "xPERISPOMENIa AND PROSGEGRAMMENI.GREEK CAPITAL LETTER ETA WITH PSILI AND PROSGEGRAMMENIoVARIA",
    "a AND PROSGEGRAMMENI.GREEK CAPITAL LETTER ETA WITH TONOSfVARIAoGAMMAfHETAeIOTAa WITH DASIA",
    "a AND OXIAePERISPOMENIlVARIAoIALYTIKAjMACRONgOXIAePSILIa AND OXIAePERISPOMENIlVARIApTONOS",
    "fVARIAeRACHYqKAPPAfLAMDAfMUcNUcOMEGAa WITH DASIAa AND OXIAa AND PROSGEGRAMMENIxPERISPOMENI",
    "a AND PROSGEGRAMMENI.GREEK CAPITAL LETTER OMEGA WITH DASIA AND PROSGEGRAMMENIoVARIA",
    "a AND PROSGEGRAMMENI.GREEK CAPITAL LETTER OMEGA WITH OXIAePROSGEGRAMMENInSILIa AND OXIA",
    "a AND PROSGEGRAMMENIxPERISPOMENIa AND PROSGEGRAMMENI",
    ".GREEK CAPITAL LETTER OMEGA WITH PSILI AND PROSGEGRAMMENIoVARIAa AND PROSGEGRAMMENI",
    ".GREEK CAPITAL LETTER OMEGA WITH TONOSfVARIAoICRONa WITH DASIAa AND OXIAeVARIApOXIAePSILI",
    "a AND OXIAeVARIApTONOSfVARIAsPAMPHYLIAN DIGAMMArHIcIbSIdRHOa WITH DASIAoSANcHOcIGMAfTAUcHETA",
    "fUPSILONa WITH DASIAa AND OXIAePERISPOMENIlVARIAoIALYTIKAjMACRONgOXIAeTONOSfVARIAeRACHYtXI",
    "cYOTdZETAkUNATE SIGMA SYMBOLtREVERSED DOTTED LUNATE SIGMA SYMBOL",
    ".GREEK CAPITAL REVERSED LUNATE SIGMA SYMBOL.GREEK CAPITAL THETA SYMBOLuDASIAa AND OXIA",
    "ePERISPOMENIlVARIAoIALYTIKA AND OXIAePERISPOMENIlVARIAjTONOSoRACHMA SIGNmFIVE OBOLS SIGN",
    "oOUR OBOLS SIGNpGRAMMA SIGNlINDICTION SIGNmSTRUMENTAL NOTATION SYMBOL-1a1b2b3b4b7b8b9c2a3b4b5",
    "b6b7b9c30b2b6b7b8b9c4a0b2b3b5b7b8b9c5a0b1b2b3b4c7b8.GREEK KAI SYMBOLiPPA SYMBOLlORONIS",
    "gYATHOS BASE SIGNrLETTER ARCHAIC KOPPAnDIGAMMAhKOPPAfSAMPIeMALL CAPITAL GAMMAfLAMDAfOMEGAfPI",
    "bSIdRHOqTIGMAgYOTjITRA SIGNjOWER NUMERAL SIGNrUNATE EPSILON SYMBOLoSIGMA SYMBOLtMETRETES SIGN",
    "mUSICAL LEIMMAoNUMERAL SIGNmOBOL SIGNiNE HALF SIGNa ALTERNATE FORMyQUARTER SIGNpUNKIA SIGN",
    "kXIAePERISPOMENIkHI SYMBOLjI SYMBOLiROSGEGRAMMENInSILIa AND OXIAePERISPOMENIlVARIA",
    "pQUESTION MARKnREVERSED LUNATE EPSILON SYMBOL.GREEK RHO SYMBOLgWITH STROKE SYMBOL",
    "wSINUSOID SIGNmMALL DOTTED LUNATE SIGMA SYMBOL.GREEK SMALL LETTER ALPHAa WITH DASIAa AND OXIA",
    "a AND YPOGEGRAMMENIwPERISPOMENIa AND YPOGEGRAMMENI",
    ".GREEK SMALL LETTER ALPHA WITH DASIA AND VARIAa AND YPOGEGRAMMENIxYPOGEGRAMMENIxMACRONgOXIA",
    "a AND YPOGEGRAMMENIwPERISPOMENIa AND YPOGEGRAMMENI.GREEK SMALL LETTER ALPHA WITH PSILI",
    "a AND OXIAa AND YPOGEGRAMMENIwPERISPOMENIa AND YPOGEGRAMMENI",
    ".GREEK SMALL LETTER ALPHA WITH PSILI AND VARIAa AND YPOGEGRAMMENIxYPOGEGRAMMENIxTONOSfVARIA",
    "a AND YPOGEGRAMMENIwRACHYgYPOGEGRAMMENIxRCHAIC KOPPAfSAMPInBETAeCHIdDELTAeIGAMMAhEPSILON",
    "a WITH DASIAa AND OXIAeVARIApOXIAePSILIa AND OXIAeVARIApTONOSfVARIArTAa WITH DASIAa AND OXIA",
    "a AND YPOGEGRAMMENIwPERISPOMENIa AND YPOGEGRAMMENI",
    ".GREEK SMALL LETTER ETA WITH DASIA AND VARIAa AND YPOGEGRAMMENIxYPOGEGRAMMENIxOXIA",
    "a AND YPOGEGRAMMENIwPERISPOMENIa AND YPOGEGRAMMENI.GREEK SMALL LETTER ETA WITH PSILI",
    "a AND OXIAa AND YPOGEGRAMMENIwPERISPOMENIa AND YPOGEGRAMMENI",
    ".GREEK SMALL LETTER ETA WITH PSILI AND VARIAa AND YPOGEGRAMMENIxYPOGEGRAMMENIxTONOSfVARIA",
    "a AND YPOGEGRAMMENIxYPOGEGRAMMENIwFINAL SIGMAlGAMMAfHETAeIOTAa WITH DASIAa AND OXIA",
    "ePERISPOMENIlVARIAoIALYTIKAa AND OXIAePERISPOMENIlTONOSfVARIAtMACRONgOXIAePERISPOMENIkSILI",
    "a AND OXIAePERISPOMENIlVARIApTONOSfVARIAeRACHYqKAPPAeOPPAfLAMDAfMUcNUcOMEGAa WITH DASIA",
    "a AND OXIAa AND YPOGEGRAMMENIwPERISPOMENIa AND YPOGEGRAMMENI",
    ".GREEK SMALL LETTER OMEGA WITH DASIA AND VARIAa AND YPOGEGRAMMENIxYPOGEGRAMMENIxOXIA",
    "a AND YPOGEGRAMMENIwPERISPOMENIa AND YPOGEGRAMMENI.GREEK SMALL LETTER OMEGA WITH PSILI",
    "a AND OXIAa AND YPOGEGRAMMENIwPERISPOMENIa AND YPOGEGRAMMENI",
    ".GREEK SMALL LETTER OMEGA WITH PSILI AND VARIAa AND YPOGEGRAMMENIxYPOGEGRAMMENIxTONOSfVARIA",
    "a AND YPOGEGRAMMENIxYPOGEGRAMMENIwICRONa WITH DASIAa AND OXIAeVARIApOXIAePSILIa AND OXIA",
    "eVARIApTONOSfVARIAsPAMPHYLIAN DIGAMMArHIcIbSIdRHOa WITH DASIAfPSILIoSAMPIdNcHOcIGMAeTIGMAgTAU",
    "cHETAfUPSILONa WITH DASIAa AND OXIAePERISPOMENIlVARIAoIALYTIKAa AND OXIAePERISPOMENIlTONOS",
    "fVARIAtMACRONgOXIAePERISPOMENIkSILIa AND OXIAePERISPOMENIlVARIApTONOSfVARIAeRACHYtXIcZETA",
    "lREVERSED DOTTED LUNATE SIGMA SYMBOL.GREEK SMALL REVERSED LUNATE SIGMA SYMBOL",
    ".GREEK SUBSCRIPT SMALL LETTER BETAeCHIdGAMMAfPHIdRHOzYMBOL TAU RHOoTALENT SIGNkHETA SYMBOL",
    "kREE OBOLS SIGNkQUARTERS SIGNsONOSeRYBLION BASE SIGNrWO OBOLS SIGNkTHIRDS SIGN",
    "pUPSILON WITH ACUTE AND HOOK SYMBOLvDIAERESIS AND HOOK SYMBOLzHOOK SYMBOLyVARIA",
    "eOCAL NOTATION SYMBOL-1a0b1b2b3b4b5b6b7b8b9c2a0b1b2b3b4c3b4b5a0b1b2b3b4c6b7b8b9xXESTES SIGN",
    "lYEAR SIGNiPOGEGRAMMENInZERO SIGNlN APPLEfBOOKeHEARTfSALADiY HEARTiIMACING FACE",
    "lNNING CAT FACE WITH SMILING EYES.GRINNING FACEa WITH ONE LARGE AND ONE SMALL EYE",
    ".GRINNING FACE WITH SMILING EYESlTAR EYES.GROUP MARKhWING HEARTmUARANI SIGNiDSMANhIDE DOGgTAR",
    "eJARATI ABBREVIATION SIGNrDIGIT EIGHTfFIVEdOUReNINEeONEdSEVENeIXdTHREEeWOdZEROkLETTER AaAbIbU",
    "cBAbHAdCAbHAdDAbDAbHAdHAdEbGAbHAdHAcIaIcJAbHAdKAbHAdLAbLAdMAcNAbGAcNAcYAdObPAbHAdRAcSAbHAcSA",
    "dTAbHAcTAbHAeUaUcVAbOCALIC LaLcRaRkYAcZHAkOMcRUPEE SIGNkSIGN ANUSVARAhVAGRAHAiCANDRABINDU",
    "kIRCLE NUKTA ABOVEsMADDAHgNUKTAfSHADDAfUKUNfTHREE-DOT NUKTA ABOVEuWO-CIRCLE NUKTA ABOVE",
    "wVIRAMAeSARGAmVOWEL CANDRA EbOiSIGN AAbIbUcCANDRA EbOiEbIaIcObUaUcVOCALIC LaLcRaR",
    ".GUNJALA GONDI DIGIT EIGHTfFIVEdOUReNINEeONEdSEVENeIXdTHREEeWOdZEROkLETTER AaAbIbUcBAbHAdCA",
    "bHAdDAbDAbHAdHAdEEcGAbHAdHAcIaIcJAbHAdKAbHAdLAbLAdMAcNAbGAdOOcPAbHAdRAcSAcTAbHAcTAbHAeUaUcVA",
    "cYAjOMcSIGN ANUSVARAiVISARGAmVIRAMAfOWEL SIGN AAbIbUcEEcIaIcOOcUaUzRMUKHI ABBREVIATION SIGN",
    "qDDAKfDIGIT EIGHTfFIVEdOUReNINEeONEdSEVENeIXdTHREEeWOdZEROkEK ONKARiIRIdLETTER AaAbIbUcBAbHA",
    "dCAbHAdDAbDAbHAdHAdEEcFAcGAbHAbHAeHAcIaIcJAbHAdKAbHAbHAeLAbLAdMAcNAbGAcNAcYAdOOcPAbHAdRAbRA",
    "dSAbHAdTAbHAcTAbHAeUaUcVAcYAcZAjSIGN ADAK BINDIkBINDIfNUKTAfUDAATfVIRAMAeSARGAhYAKASHlTIPPI",
    "fURAdVOWEL SIGN AAbIbUcEEcIaIcOOcUaUwHADESdIR PICKeSPACEgCUTfLFWIDTH BLACK SQUARE",
    "mDOWNWARDS ARROWpFORMS LIGHT VERTICALuHANGUL FILLERgLETTER AaEcCHIEUCHgIEUCfEaObUcHIEUHfI",
    "aEUNGfKHIEUKHgIYEOKa-SIOSlMIEUMfNIEUNa-CIEUCfHIEUHlOaEcPHIEUPHgIEUPa-SIOSkRIEULa-HIEUHfKIYEOK",
    "gMIEUMfPHIEUPHgIEUPfSIOSeTHIEUTHnSIOSdSANGCIEUCfKIYEOKgPIEUPfSIOSeTIKEUTlTHIEUTHgIKEUTgUbWAaE",
    "cEaOcIcYAaEcEaOcIbObUqIDEOGRAPHIC COMMAfFULL STOPvKATAKANA LETTER AbEbHAbEbIbObUcIbKAbEbIbObU",
    "cMAbEbIbObUcNaAbEbIbObUcObRAbEbIbObUcSAbEbIbMALL AbEbIbObTUcUbYAbObUhObUcTAbEbIbObUcUbWAbOcYA",
    "bObUjMIDDLE DOTkSEMI-VOICED SOUND MARKwVOICED SOUND MARKs-HIRAGANA PROLONGED SOUND MARK",
    ".HALFWIDTH LEFT CORNER BRACKETpWARDS ARROWpRIGHT CORNER BRACKETpWARDS ARROWqUPWARDS ARROW",
    "nWHITE CIRCLEuMBURGERgMERa AND PICKeSICKLEgWRENCHoSAbTER FACE",
    "kND WITH INDEX AND MIDDLE FINGERS CROSSED.HAND WITH INDEX FINGER AND THUMB CROSSED.HANDBAGbLL",
    "eSHAKEgGUL CHOSEONG CEONGCHIEUMCHIEUCHgIEUCfSIOSdSANGCIEUCfSIOStHIEUCHa-HIEUHfKHIEUKH",
    "mTUEUMCHIEUCHgIEUCfSIOSdSANGCIEUCfSIOSqIEUCa-IEUNGlFILLERgHIEUHa-SIOSkIEUNGa-CHIEUCHgIEUC",
    "fHIEUHfKIYEOKgMIEUMfPANSIOSgHIEUPHgIEUPfRIEULfSIOSeTHIEUTHgIKEUTmKAPYEOUNMIEUMfPHIEUPHgIEUP",
    "fRIEULfSSANGPIEUPrHIEUKHgIYEOKa-TIKEUTnMIEUMa-KIYEOKgPIEUPfSIOSeTIKEUTmNIEUNa-CIEUCfHIEUH",
    "fKIYEOKgPIEUPfSIOSeTIKEUTmPANSIOSgHIEUPHa-HIEUHfPIEUPmIEUPa-CHIEUCHgIEUCfHIEUHfKHIEUKHgIYEOK",
    "gNIEUNfPHIEUPHhSIOSa-CIEUCfKIYEOKgPIEUPfTHIEUTHgIKEUTkSANGSIOSjTHIEUTHgIKEUTmRIEULa-CIEUC",
    "fHIEUHfKAPYEOUNPIEUPmHIEUKHgIYEOKgMIEUMfNIEUNfPIEUPfSIOSdSANGKIYEOKgPIEUPfTIKEUTlTIKEUTmSIOS",
    "a-CHIEUCHgIEUCfHIEUHfIEUNGfKHIEUKHgIYEOKgMIEUMfNIEUNfPHIEUPHgIEUPa-KIYEOKmRIEULfSSANGSIOS",
    "jTHIEUTHgIKEUTkSANGCIEUCa-HIEUHlHIEUHfIEUNGfKIYEOKgNIEUNfPIEUPfRIEULfSIOSa-PIEUPkTHIEUTH",
    "gIKEUTgYEORINHIEUHqTHIEUTHgIKEUTa-CIEUCfKIYEOKgMIEUMfPIEUPfRIEULfSIOSlYEORINHIEUHjSIEUNG",
    "rDOUBLE DOT TONE MARKuFILLERgJONGSEONG CHIEUCHgIEUCa-PIEUPfSSANGPIEUPqHIEUHa-MIEUMfNIEUN",
    "fPIEUPfRIEULlIEUNGa-KHIEUKHgIYEOKgSSANGKIYEOKrKAPYEOUNMIEUMfPHIEUPHgIEUPfRIEULmHIEUKHgIYEOK",
    "a-CHIEUCHhHIEUHfKHIEUKHhNIEUNfPIEUPfRIEULfSIOSa-KIYEOKsMIEUMa-CHIEUCHgIEUCfHIEUHfKIYEOKgNIEUN",
    "fPANSIOSgIEUPa-SIOSkRIEULfSIOSdSANGNIEUNfSIOSpNIEUNa-CHIEUCHgIEUCfHIEUHfKIYEOKgPANSIOShRIEUL",
    "fSIOSeTHIEUTHgIKEUTmPANSIOSa-KAPYEOUNPIEUPnPIEUPmHIEUPHa-PIEUPfSIOSeTHIEUTHoIEUPa-CHIEUCH",
    "gIEUCfHIEUHfMIEUMfPHIEUPHhRIEULa-PHIEUPHnSIOSa-TIKEUTlTIKEUTmRIEULa-HIEUHfKAPYEOUNPIEUP",
    "mHIEUKHgIYEOKa-HIEUHfSIOSlMIEUMa-HIEUHfKIYEOKgSIOSkNIEUNfPANSIOSgHIEUPHgIEUPa-HIEUHfPHIEUPH",
    "hSIOSeTIKEUTmSIOSdSANGKIYEOKgSIOSjTHIEUTHgIKEUTa-HIEUHmYEORINHIEUHa-HIEUHpSIEUNGoSIOS",
    "a-CHIEUCHgIEUCfHIEUHfKAPYEOUNPIEUPmIYEOKgMIEUMfPANSIOSgIEUPfRIEULfTHIEUTHgIKEUTkSANGCIEUC",
    "fIEUNGfKIYEOKgMIEUMfNIEUNfPIEUPfRIEULa-KHIEUKHnSIOSa-KIYEOKgTIKEUTlTIKEUTa-PIEUPrTHIEUTH",
    "gIKEUTa-CHIEUCHgIEUCfKIYEOKgPIEUPfRIEULfSIOSa-KIYEOKlTHIEUTHoYEORINHIEUHjSIEUNGa-HIEUHfMIEUM",
    "fPANSIOShSIOSwUNGSEONG Aa-EUcObUcEbRAEAa-AbEaOcIbUhEaOa-EUcObUdUa-AbEaObUcObUeFILLERgIa-A",
    "aRAEAfEUcIbOa-IdUbYAa-OcEcEaOcObUeOa-EaOcOa-IdUbYAaEcEaOeEcSSANGARAEAkUa-AaEcEO-EUfI-IdUbYEaO",
    "fWAaEcEaOcIcYAa-ObUbYOdEcEaOa-ObUbYAfIa-UdOa-AaEcEOcIbObYAaEcEOfUa-AaEcEaOcIbObUbYEaO",
    "qLETTER AaEbRAEAaEgCHIEUCHgIEUCfEaObUcHIEUHfIaEUNGfKAPYEOUNMIEUMfPHIEUPHgIEUPfSSANGPIEUP",
    "rHIEUKHgIYEOKa-SIOSlMIEUMa-PANSIOSgIEUPfSIOSkNIEUNa-CIEUCfHIEUHfPANSIOShSIOSeTIKEUTmOaE",
    "cPANSIOSgHIEUPHgIEUPa-CIEUCfKIYEOKgSIOSa-KIYEOKgTIKEUTlTHIEUTHgIKEUTmRIEULa-HIEUHfKIYEOK",
    "a-SIOSlMIEUMfPANSIOSgHIEUPHgIEUPa-SIOSkSIOSeTHIEUTHgIKEUTgYEORINHIEUHrSIOSa-CIEUCfKIYEOK",
    "gNIEUNfPIEUPfTIKEUTkSANGCIEUCfHIEUHfIEUNGfKIYEOKgNIEUNfPIEUPfSIOSeTIKEUTlTHIEUTHgIKEUTgUbWAaE",
    "cEaOcIcYAaEcEaOaRINHIEUHjSIEUNGa-PANSIOShSIOSmIbOa-IbYAaEfUa-IbYEaOnSINGLE DOT TONE MARK",
    "xZHOU NUMERAL EIGHTfFIVEdOUReNINEeONEdSEVENeIXdTENcHIRTYeREEeWENTYeOrIFI ROHINGYA DIGIT EIGHT",
    "fFIVEdOUReNINEeONEdSEVENeIXdTHREEeWOdZEROkLETTER AbBAcCAcDAbDAdFAcGAcHAcJAcKAbHAcINNA WAcYA",
    "iLAcMAcNAbGAcYAdPAcRAbRAdSAbHAdTAbTAdVAcWAcYAcZAjMARK NA KHONNAjSAKINkSIGN HARBAHAYiTAHALAeNA",
    "cSSIkVOWEL AbEbIbObUuUNOO LETTER AbBAcDAcGAcHAcIbKAcLAcMAcNAbGAdPAcRAcSAcTAcUbWAcYA",
    "jSIGN PAMUDPODnVOWEL SIGN IbUsPPY PERSON RAISING ONE HAND.HARD DISKhTCHING CHICK",
    "lRAN LETTER ALEPHeYNdBETHeDALETH-RESHlGIMELfHEaTHeKAPHeLAMEDHgMEMdNUNdPEcQOPHeSADHEdMEKHfHIN",
    "eTAWcETHeWAWdYODHeZAYNlNUMBER FIVEeONEa HUNDREDlTENcWENTYsUMEAfEADPHONEfSTONE",
    "a GRAVEYARD SYMBOLxR-NO-EVIL MONKEYpT DECORATIONkHANDSfWITH ARROWfRIBBONgTIP ON THE LEFT",
    "xVY AMPERSAND ORNAMENTrRROW SHAFT WIDTH ONEa HALFeTHIRDjTWO THIRDS.HEAVY ASTERISKiBALLOT X",
    "hLACK CURVED DOWNWARDS AND RIGHTWARDS ARROW.HEAVY BLACK CURVED UPWARDS AND RIGHTWARDS ARROW",
    ".HEAVY BLACK HEARTg-FEATHERED NORTH EAST ARROWqRIGHTWARDS ARROWqSOUTH EAST ARROW",
    ".HEAVY CHECK MARKhVRON SNOWFLAKEqIRCLEa WITH CIRCLE INSIDEnSTROKE AND TWO DOTS ABOVE",
    ".HEAVY CIRCLED SALTIREoONCAVE-POINTED BLACK RIGHTWARDS ARROW",
    ".HEAVY DASHED TRIANGLE-HEADED RIGHTWARDS ARROW.HEAVY DIVISION SIGNmOLLAR SIGN",
    "jUBLE COMMA QUOTATION MARK ORNAMENT.HEAVY DOUBLE TURNED COMMA QUOTATION MARK ORNAMENT",
    ".HEAVY DOWNWARDS ARROW WITH EQUILATERAL ARROWHEADvLARGE EQUILATERAL ARROWHEAD",
    ".HEAVY EIGHT POINTED BLACK STARkPINWHEEL STARnRECTILINEAR BLACK STAR",
    ".HEAVY EIGHT SPOKED ASTERISKpTEARDROP-SPOKED PROPELLER ASTERISK.HEAVY EQUALS SIGN",
    "kXCLAMATION MARK ORNAMENTiSYMBOLxFIVE POINTED BLACK STARsSPOKED ASTERISK",
    "tOUR BALLOON-SPOKED ASTERISK.HEAVY GREEK CROSSlHEART EXCLAMATION MARK ORNAMENT",
    ".HEAVY HORIZONTAL FILLpINTERROBANG ORNAMENTuLARGE CIRCLEkTIN CROSS",
    "kEFT-POINTING ANGLE BRACKET ORNAMENTqQUOTATION MARK ORNAMENT",
    ".HEAVY LEFTWARDS ARROW WITH EQUILATERAL ARROWHEADvLARGE EQUILATERAL ARROWHEAD",
    ".HEAVY LIGATURE OPEN ET ORNAMENTyOW DOUBLE COMMA QUOTATION MARK ORNAMENT",
    ".HEAVY LOW SINGLE COMMA QUOTATION MARK ORNAMENT",
    ".HEAVY LOWER RIGHT-SHADOWED WHITE RIGHTWARDS ARROW.HEAVY MINUS SIGNjULTIPLICATION X",
    "qNORTH EAST ARROWfPOINTING BUDdVINE LEAFxWEST POINTING BUDdVINE LEAF.HEAVY OPEN CENTRE CROSS",
    "qUTLINED BLACK STARsVAL WITH OVAL INSIDEvPLUS SIGNjRIGHT-POINTING ANGLE BRACKET ORNAMENT",
    "qQUOTATION MARK ORNAMENT.HEAVY RIGHTWARDS ARROWa WITH EQUILATERAL ARROWHEAD",
    "vLARGE EQUILATERAL ARROWHEAD.HEAVY ROUND-TIPPED RIGHTWARDS ARROW.HEAVY SALTIRE",
    "fNS-SERIF INTERROBANG ORNAMENT.HEAVY SCRIPT LIGATURE ET ORNAMENT",
    ".HEAVY SINGLE COMMA QUOTATION MARK ORNAMENT.HEAVY SINGLE TURNED COMMA QUOTATION MARK ORNAMENT",
    ".HEAVY SIX POINTED BLACK STARsSPOKED ASTERISKsOUTH EAST ARROWfPOINTING BUDdVINE LEAF",
    "xWEST POINTING BUDdVINE LEAF.HEAVY SPARKLEhTEARDROP-SHANKED RIGHTWARDS ARROWxPOKED ASTERISK",
    "iPINWHEEL ASTERISK.HEAVY TRIANGLE-HEADED RIGHTWARDS ARROW.HEAVY TWELVE POINTED BLACK STAR",
    "kPINWHEEL STAR.HEAVY UPPER RIGHT-SHADOWED WHITE RIGHTWARDS ARROW",
    ".HEAVY UPWARDS ARROW WITH EQUILATERAL ARROWHEADvLARGE EQUILATERAL ARROWHEAD",
    ".HEAVY VERTICAL BARmWEDGE-TAILED RIGHTWARDS ARROW.HEAVY WHITE CIRCLEgDOWN-POINTING TRIANGLE",
    "wSQUARElIDE-HEADED RIGHTWARDS ARROW.HEBREW ACCENT ATNAH HAFUKHmDARGAeEHIeETNAHTAhGERESH",
    "a MUQDAMkSHAYIMjILUYeMAHAPAKHhERKHAa KEFULAmUNAHfOLEdPASHTAeZERfQADMAdRNEY PARAlREVIAfSEGOL",
    "eHALSHELETkTELISHA GEDOLAgQETANAmVIReIPEHAgYERAH BEN YOMOmTIVfZAQEF GADOLfQATANjRQAeINOR",
    "mLETTER ALEFa WITH MAPIQfPATAHfQAMATSoTERNATIVE AYINePLUS SIGNuYINeBETa WITH DAGESHgRAFE",
    "nDALETa WITH DAGESHrFINAL KAFa WITH DAGESHpMEMdNUNdPEa WITH DAGESHoTSADIlGIMELa WITH DAGESH",
    "rHEa WITH MAPIQlTdKAFa WITH DAGESHgRAFEnLAMEDa WITH DAGESHrMEMa WITH DAGESHpNUNa WITH DAGESH",
    "pPEa WITH DAGESHgRAFEmQOFa WITH DAGESHpRESHa WITH DAGESHqSAMEKHa WITH DAGESHrHINa WITH DAGESH",
    "a AND SHIN DOThIN DOTsSHIN DOThIN DOTrTAVa WITH DAGESHoETa WITH DAGESHoSADIa WITH DAGESHrVAV",
    "a WITH DAGESHgHOLAMoWIDE ALEFeDALETfFINAL MEMjHEcKAFdLAMEDfRESHeTAViYODa WITH DAGESHgHIRIQ",
    "oZAYINa WITH DAGESHxIGATURE ALEF LAMEDkYIDDISH DOUBLE VAVdYODkVAV YODhYOD YOD PATAH",
    ".HEBREW MARK LOWER DOTjMASORA CIRCLEnUPPER DOToPOINT DAGESH OR MAPIQpHATAF PATAHfQAMATSgSEGOL",
    "kIRIQeOLAMa HASER FOR VAVtJUDEO-SPANISH VARIKAuMETEGfPATAHfQAMATSa QATANlUBUTSgRAFEeSEGOL",
    "eHEVAdIN DOThIN DOThTSEREkUNCTUATION GERESHdSHAYIMjMAQAFfNUN HAFUKHAlPASEQfSOF PASUQ",
    "vYOD TRIANGLErDGEHOGgLICOPTERhLSCHREIBER PAUSE SYMBOLxM SYMBOLhET WITH WHITE CROSS",
    "vNTAIGANA LETTER A-1b2b3bWOeE-2b3b4b5b6dHA-1a0b1c2b3b4b5b6b7b8b9dE-1b2b3b4b5b6b7dI-1b2b3b4b5",
    "b6b7dO-1b2b3b4b5b6b7b8dU-1b2b3eI-1b2b3b4dKA-1a0b1c2b3b4b5b6b7b8b9bKEeE-1b2b3b4b5b6dI-1b2b3b4",
    "b5b6b7b8dO-1b2b3bKIeU-1b2b3b4b5b6b7eMA-1b2b3b4b5b6b7dE-1b2bMAeI-1b2b3b4b5b6b7dO-1b2b3b4b5b6",
    "dU-1b2b3b4eN-MU-MO-1b2iA-1b2b3b4b5b6b7b8b9dE-1b2b3b4b5b6bKOeI-1b2b3b4b5b6b7bTEeO-1b2b3b4b5",
    "dU-1b2b3eO-1b2b3dRA-1b2b3b4dE-1b2b3b4dI-1b2b3b4b5b6b7dO-1b2b3b4b5b6dU-1b2b3b4b5b6eSA-1b2b3b4",
    "b5b6b7b8dE-1b2b3b4b5dI-1b2b3b4b5b6dO-1b2b3b4b5b6b7dU-1b2b3b4b5b6b7b8eTA-1b2b3b4dE-1b2b3b4b5b6",
    "b7b8b9dI-1b2b3b4b5b6b7dO-1b2b3b4b5b6bRAeU-1b2b3b4bTOfU-1b2b3b4b5dWA-1b2b3b4b5dE-1b2b3b4dI-1b2",
    "b3b4b5dO-1b2b3b4b5b6b7eYA-1b2b3b4b5bYOeO-1b2b3b4b5b6dU-1b2b3b4uRBbMITIAN CONJUGATE MATRIX",
    "yXAGRAM FOR ABUNDANCEiFTER COMPLETIONpPPROACHiBEFORE COMPLETIONqITING THROUGHnREAKTHROUGH",
    "mCOMING TO MEETmNFLICTfTEMPLATIONnDARKENING OF THE LIGHTvECREASEgLIVERANCEjVELOPMENT",
    "kIFFICULTY AT THE BEGINNINGzSPERSIONjURATIONiENTHUSIASMkFELLOWSHIPjOLLOWING",
    "jGATHERING TOGETHERrRACEdEAT POSSESSIONiWEReREPONDERANCEnTAMINGmHOLDING TOGETHERqINCREASE",
    "gFLUENCEhNER TRUTHiOCENCEjLIMITATIONkMODESTYfUTH CORNERSnOBSTRUCTIONkPPOSITIONhRESSIONkPEACE",
    "eROGRESShUSHING UPWARDoRETREATeURNeVOLUTIONkSMALL PREPONDERANCEnTAMINGlPLITTING APART",
    "oTANDSTILLkTHE ABYSMAL WATERmRMYcOUSING THUNDERqCAULDRONhLINGING FIREmREATIVE HEAVENpFAMILY",
    "gGENTLE WINDlJOYOUS LAKElKEEPING STILL MOUNTAINwMARRYING MAIDENpRECEPTIVE EARTHpWANDERERhELL",
    "hREADINGiWAITINGgORK ON THE DECAYEDtYOUTHFUL FOLLY.HIBISCUSgGH BRIGHTNESS SYMBOLrVOLTAGE SIGN",
    "n-HEELED SHOElSPEED TRAINa WITH BULLET NOSE.HIKING BOOTjNDU TEMPLEkPPOPOTAMUS",
    "kRAGANA DIGRAPH YORImITERATION MARKoLETTER AaRCHAIC WUcYEkBAbEbIbObUcDAbEbIbObUcEbGAbEbIbObU",
    "cHAbEbIbObUcIbKAbEbIbObUcMAbEbIbObUcNaAbEbIbObUcObPAbEbIbObUcRAbEbIbObUcSAbEbIbMALL AbEbIbKA",
    "bEbOcObTUcUbWAbEbIbOcYAbObUhObUcTAbEbIbObUcUbVUcWAbEbIbOcYAbObUcZAbEbIbObU",
    "jVOICED ITERATION MARK.HISTORIC SITEmOCHOdLEbLOW QUILT SQUARE ORNAMENTa IN BLACK SQUARE",
    ".HOMOTHETICiNEY POTeBEEgOKcRIZONTAL BARcLACK HEXAGONhOCTAGONnELLIPSISiLINE EXTENSION",
    "oMALE WITH STROKE SIGNvONE EIGHTH BLOCK-1358e2b3b4b5b6b7sSCAN LINE-1b3b7b9lTAB KEY",
    "gRAFFIC LIGHTvSEa FACEeRACINGkSPITALgT BEVERAGEiDOGdPEPPERgSPRINGSiELdURGLASS",
    "a WITH FLOWING SANDySEa BUILDINGaSjWITH GARDENqRYVNIA SIGNlUGGING FACEkNDRED POINTS SYMBOL",
    "tSHED FACEjTcYACINTHgGIEAePHENa BULLETgWITH DIAERESISp-MINUSgATION POINToODIASTOLE",
    "kSTERESIS SYMBOLrI LOVE YOU HAND SIGNtCE CREAMeUBEeHOCKEY STICK AND PUCKvSKATEiDENTICAL TO",
    "a AND SLANTED PARALLELxWITH DOT ABOVEsFICATION CARDqOGRAPHIC ANNOTATION BOTTOM MARK",
    "lEARTH MARKkFIRST MARKjOUR MARKfTH MARKlHEAVEN MARKlLINKING MARKmMAN MARKhIDDLE MARKlONE MARK",
    "iREVERSE MARKmSECOND MARKlTHIRD MARKiREE MARKjOP MARKhWO MARKtCLOSING MARKlOMMA",
    "fDEPARTING TONE MARKrSCRIPTION CHARACTER ABOVE TO BELOWfMIDDLE AND BELOWzFULL SURROUND",
    "nLEFT TO MIDDLE AND RIGHTqRIGHTnOVERLAIDiSURROUND FROM ABOVEfBELOWfLEFTdOWER LEFTkUPPER LEFT",
    "eRIGHT.IDEOGRAPHIC ENTERING TONE MARKsFULL STOPjHALF FILL SPACEpITERATION MARK",
    "oLEVEL TONE MARKpNUMBER ZEROlRISING TONE MARKqSPACEfTALLY MARK FIVEdOUReONEdTHREEeWO",
    "nELEGRAPH LINE FEED SEPARATOR SYMBOL.IDEOGRAPHIC TELEGRAPH SYMBOL FOR APRILeUGUSTgDAY EIGHT",
    "aEENhLEVENgFIFTEENfVEdOURaTEENiNINEaTEENiONEdSEVENaTEENiIXaTEENhTENcHIRTEENdYa-ONEiREEeWELVE",
    "dNTYa-EIGHTfFIVEdOUReNINEeONEdSEVENeIXdTHREEeWOiOgECEMBERiFEBRUARYiHOUR EIGHTaEENhLEVEN",
    "gFIFTEENfVEdOURaTEENiNINEaTEENiONEdSEVENaTEENiIXaTEENhTENcHIRTEENgREEeWELVEdNTYa-FOUReONE",
    "dTHREEeWOiOdZEROjJANUARYgULYcNEeMARCHdYdNOVEMBERiOCTOBERhSEPTEMBER",
    ".IDEOGRAPHIC VARIATION INDICATOR.IMAGE OFa OR APPROXIMATELY EQUAL TO.IMP",
    "aERIAL ARAMAIC LETTER ALEPHeYINeBETHeDALETHgGIMELfHEaTHeKAPHeLAMEDHgMEMdNUNdPEcQOPHeRESH",
    "eSADHEdMEKHfHINeTAWcETHeWAWdYODHeZAYINmNUMBER ONEa HUNDREDhTHOUSANDmTENa THOUSANDlHREEeWENTY",
    "eOkSECTION SIGN.INBOX TRAYiCOMING ENVELOPEmPLETE INFINITYqREASE FONT SIZE SYMBOLrS AShMENT",
    "hDEX POINTING AT THE VIEWERzIAN RUPEE SIGNnC SIYAQ ALTERNATE LAKH MARKtFRACTION ONE HALF",
    "eQUARTERlTHREE QUARTERSxLAKH MARKjNUMBER ALTERNATE ONEdTEN THOUSANDlWOnEIGHTa HUNDRED",
    "hTHOUSANDjYa THOUSANDpFIFTYa THOUSANDmVEa HUNDREDhTHOUSANDmORTYa THOUSANDmURa HUNDRED",
    "hTHOUSANDnKARORaANhLAKHaANgNINEa HUNDREDhTHOUSANDjTYa THOUSANDpONEa HUNDREDhTHOUSAND",
    "mPREFIXED EIGHTfFIVEdOUReNINEeONEdSEVENeIXdTHREEeWOmSEVENa HUNDREDhTHOUSANDjTYa THOUSANDpIX",
    "a HUNDREDhTHOUSANDjTYa THOUSANDoTENa THOUSANDlHIRTYa THOUSANDnREEa HUNDREDhTHOUSANDnWENTY",
    "a THOUSANDnOa HUNDREDhTHOUSANDtPLACEHOLDERlRUPEE MARKuFINITYa NEGATED WITH VERTICAL BAR",
    ".INFORMATION DESK PERSONlSOURCEqHIBIT ARABIC FORM SHAPINGtSYMMETRIC SWAPPING",
    "yPUT SYMBOL FOR LATIN CAPITAL LETTERSpLETTERShSMALL LETTERStNUMBERShSYMBOLS",
    "wSCRIPTIONAL PAHLAVI LETTER ALEPHfBETHeDALETHgGIMELfHEaTHeKAPHeLAMEDHgMEM-QOPHiNUNdPEcSADHE",
    "dMEKHfHINeTAWcETHeWAW-AYIN-RESHnYODHeZAYINmNUMBER FOUReONEa HUNDREDhTHOUSANDmTENcHREEeWENTYeO",
    "qRTHIAN LETTER ALEPHeYINeBETHeDALETHgGIMELfHEaTHeKAPHeLAMEDHgMEMdNUNdPEcQOPHeRESHeSADHEdMEKH",
    "fHINeTAWcETHeWAWdYODHeZAYINmNUMBER FOUReONEa HUNDREDhTHOUSANDmTENcHREEeWENTYeO",
    ".INSERTION SYMBOLoTEGRALa AROUND A POINT OPERATORwVERAGE WITH SLASHsEXTENSION",
    "jWITH DOUBLE STROKEnINTERSECTIONmLEFTWARDS ARROW WITH HOOKzOVERBARhTIMES SIGNkUNDERBARgION",
    "pRCALATEgIOR PRODUCTlLINEAR ANNOTATION ANCHORgSEPARATORjTERMINATOR",
    ".INTERLOCKED FEMALE AND MALE SIGN.INTERROBANGgSECTIONa ABOVE BAR ABOVE UNIONpUNION",
    "lBESIDE AND JOINED WITH INTERSECTION.INTERSECTION WITH DOTdLOGICAL ANDlOVERBARxVERSE BULLET",
    "gCHECK MARKfER BOARD FILLsDOWNWARDS ARROW WITH TIP LEFTWARDS.INVERSE MEDIUM SHADE",
    "mWHITE CIRCLEpTED EXCLAMATION MARKqINTERROBANGlLAZY SfOW KAVYKAa WITH KAVYKA ABOVE",
    ".INVERTED OHM SIGNiPENTAGRAMjQUESTION MARKnUNDERTIEoISIBLE PLUSeSEPARATORjTIMES",
    "oZAKAYA LANTERNpJACK-O-LANTERNmPANESE BANK SYMBOLlCASTLEgDOLLSfGOBLIN",
    "gINDUSTRIAL STANDARD SYMBOL.JAPANESE OGREePOST OFFICElSYMBOL FOR BEGINNER.JAR",
    "bVANESE CONSONANT SIGN CAKRAfKERETfPENGKALwDIGIT EIGHTfFIVEdOUReNINEeONEdSEVENeIXdTHREEeWO",
    "dZEROkLEFT RERENGGANmTTER AaIcBAa MURDAiCAa MURDAiDAa MAHAPRANAlDAa MAHAPRANAnEbGAa MURDAiHA",
    "cIa KAWIfIcJAa MAHAPRANAmKAa MURDAfSASAKiLAcMAcNAa MURDAhGAa LELETa RASWADIqYAa MURDAjObPA",
    "a CEREKfMURDAiRAa AGUNGiSAa MAHAPRANAiURDAiTAa MURDAhTAa MAHAPRANAnUbWAcYAjPADA ADEGa ADEG",
    "iNDAPfISEN-ISENjLINGSAfUHURdNGSIgMADYAfPANGKATgISELEHhTIRTA TUMETESnWINDUiNGKONdRANGKEP",
    "lRIGHT RERENGGANpSIGN CECAKa TELUkLAYARfPANYANGGAjWIGNYANmTURNED PADA PISELEH",
    "tVOWEL SIGN DIRGA MUREkPEPETfSUKUa MENDUTlTALINGeRUNGfOLONGgWULUa MELIK.JEANSdLLYFISH",
    "iIGSAW PUZZLE PIECEsOINcYSTICKhUGGLINGgNOcPITERhKAABAdITHI ABBREVIATION SIGNrDANDA",
    "eOUBLE DANDAfSECTION MARKtENUMERATION SIGNqLETTER AaAbIbUcBAbHAdCAbHAdDAbDAbDHAdHAdHAdEbGAbHA",
    "dHAcIaIcJAbHAdKAbHAdLAcMAcNAbGAcNAcYAdObPAbHAdRAbHAdSAbHAcSAdTAbHAcTAbHAeUaUcVAcYA",
    "jNUMBER SIGNa ABOVErSECTION MARKlIGN ANUSVARAiCANDRABINDUlNUKTAfVIRAMAeSARGAmVOWEL SIGN AAbI",
    "bUcEbIaIcObUaUcVOCALIC RzKTOVIK NUMERAL EIGHTaEENhLEVENgFIFTEENfVEdOURaTEENiNINEaTEENiONE",
    "dSEVENaTEENiIXaTEENhTENcHIRTEENgREEeWELVEeOdZEROtNGAROOeXI RADICAL AGAINeNDcRRIVEdOWeXE",
    "dBADGEReMBOOfEANdIGbRDcTTERfLACKdOODdUEdOATcDYcLT OF CLOTHlNEcWcRANCHeISTLEfUSHfCARTcULDRON",
    "gVEdHILDeITYdLANbWcIFFdOTHESgOLORdMPAREfRPSEeVERdWdDEATHdERdIPPEReSHbTINGUISHjVINATIONjO NOT",
    "eGbORcTaTED CLIFFfTENTjUBLE XgWN BOXhRAGONeUMcYdEARaTHdTcIGHTeMBROIDERYjNCLOSUREhTEReVENaING",
    "gYEdFACEcNGcTHERfEATHERgIELDdGHTdREcSHdLUTEdYcOOTdRAGRANTgOGdURdGATEdHOSTeOa SLOWLYhLDdRAIN",
    "cSSfHAIRcLBERDeF TREE TRUNKnNDdEADbRTdMPdIDING ENCLOSUREpOOKcRNbSEfICEcNCHcSECTgJADEcRdKNIFE",
    "fLACKcMEdEAFbTHERfEKcGSdIDbFEcNEdONGa STRIDElMANcEATcLONeILLETeNISTERhOONcRNINGeTAReUNDbTAIN",
    "fTHfNETcOSEcTdOLDcNEaSELFgPEN BOXgPOSEgPIGcLOWdOWEReRIVATEfOFOUNDiRAINcPbTcEDcICE",
    "cGHT OPEN BOXmVEReOOFdUNdSACRIFICIAL WINEoLTcYcCHOLARfRIPTfEALcCONDeEbLFdHEEPcLLdOOT",
    "cRT TAILED BIRDkHREADlICKNESSgLKdKINdLASHcVEdICEeMALLeNOUTeOUNDePEARcECHeIRITeOONdROUTfQUARE",
    "fTANDdEAMcPcONEcPaPINGhUNcWEETfTABLEdLLcNNED LEATHERnENcIGERdLEdONGUEeOTHeRACKdEEcIPODfURBAN",
    "dTLEfWOa HANDSjUSEdVALLEYfILLAGEhWALKa ENCLOSUREmTEReEAPONeSTdHEATdITEeINDbEdOMANdRKdRAPcONG",
    "fYELLOWsNADA AI LENGTH MARKoDIGIT EIGHTfFIVEdOUReNINEeONEdSEVENeIXdTHREEeWOdZEROkLENGTH MARK",
    "jTTER AaAbIbUcBAbHAdCAbHAdDAbDAbHAdHAdEaEcFAcGAbHAdHAcIaIcJAbHAdKAbHAdLAbLAdMAcNAaKAARA POLLU",
    "mGAcNAcYAdOaOcPAbHAdRAbRAdSAbHAcSAdTAbHAcTAbHAeUaUcVAbOCALIC LaLcRaRkYAjSIGN ANUSVARAhVAGRAHA",
    "iCANDRABINDUkOMBINING ANUSVARA ABOVE RIGHT.KANNADA SIGN JIHVAMULIYAlNUKTAfSIDDHAM",
    "gPACING CANDRABINDUtUPADHMANIYAlVIRAMAeSARGAmVOWEL SIGN AAbIbUcEaEcIaIcOaOcUaUcVOCALIC LaLcR",
    "aR.KATAKANA DIGRAPH KOTOmITERATION MARKoLETTER AaRCHAIC EbWUcYEbIkBAbEbIbObUcDAbEbIbObUcEbGA",
    "bEbIbObUcHAbEbIbObUcIbKAbEbIbObUcMAbEbIaNNAN NASALIZED TONE-1b2b3b4b5b7b8qTONE-2b3b4b5b7b8mO",
    "bUcNaAbEbIbObUcObPAbEbIbObUcRAbEbIbObUcSAbEbIbMALL AbEbHAbEbIbObUcIbKAbEbObUcMUcNaUcObRAbEbI",
    "bObUcSIbUcTObUcUbWAbEbIbOcYAbObUhObUcTAbEbIbObUcUbVAbEbIbObUcWAbEbIbOcYAbObUcZAbEbIbObU",
    "jMIDDLE DOTkVOICED ITERATION MARKw-HIRAGANA DOUBLE HYPHENnPROLONGED SOUND MARK",
    "uSEMI-VOICED SOUND MARKwVOICED SOUND MARK.KAWI CONJOINERjDANDAeIGIT EIGHTfFIVEdOUReNINEeONE",
    "dSEVENeIXdTHREEeWOdZEROjOUBLE DANDAmLETTER AaAbIcBAbHAdCAbHAdDAbDAbHAdHAdEbGAbHAdHAcIaIcJAbHA",
    "cNYAeKAbHAdLAcMAcNAbGAcNAcYAdObPAbHAdRAcSAbHAcSAdTAbHAcTAbHAeUaUcVOCALIC LaLcRaRkWAcYA",
    "jPUNCTUATION ALTERNATE SECTION MARKERyCIRCLEfLOSING SPIRALoDOTbUBLE DOTkFILLED CIRCLEmLOWER",
    "gSECTION MARKERnPACE FILLERkIRALgTRIPLE DOTwSIGN ANUSVARAiCANDRABINDUlKILLERgREPHAfVISARGA",
    "mVOWEL SIGN AAbIbLTERNATE AAmEaUcIaIcUaUcVOCALIC RxYAH LI DIGIT EIGHTfFIVEdOUReNINEeONEdSEVEN",
    "eIXdTHREEeWOdZEROkLETTER AbBAcCAcDAcGAcHAbTAdIbKAbHAdLAcMAcNAbGAcYAdOEbOcPAbHAdRAcSAbHAdTAbHA",
    "dVAcWAcYAcZAjSIGN CWIdSHYAjTONE CALYAa PLOPHUmPLOPHUlVOWEL EaEcObUaEqELVIN SIGNjYaBOARD",
    "a AND MOUSEpCAP TENjHANDAdROSHTHI DIGIT FOUReONEdTHREEeWOjFRACTION ONE HALFrLETTER AbBAbHAdCA",
    "bHAdDAbDAbHAdHAdGAbHAdHAcJAcKAbHAcKAdLAcMAcNAbNAcYAdPAbHAdRAcSAbHAcSAdTAbHAcTAbHAcTAbHAfVAbHA",
    "dYAcZAjNUMBER ONE HUNDREDhTHOUSANDmTENcWENTYnPUNCTUATION CIRCLEfRESCENT BARmDANDAeOT",
    "bUBLE DANDAmLINESeOTUSfMANGALAMiSMALL CIRCLEySIGN ANUSVARAiBAR ABOVEjCAUDAfDOT BELOW",
    "hUBLE RING BELOWrVISARGAmVIRAMAfOWEL LENGTH MARKlSIGN EbIbObUbVOCALIC R",
    ".KHITAN SMALL SCRIPT CHARACTER-18B00b1b2b3b4b5b6b7b8b9bAbBbCbDbEbFc10b1b2b3b4b5b6b7b8b9bAbBbC",
    "bDbEbFc20b1b2b3b4b5b6b7b8b9bAbBbCbDbEbFc30b1b2b3b4b5b6b7b8b9bAbBbCbDbEbFc40b1b2b3b4b5b6b7b8b9",
    "bAbBbCbDbEbFc50b1b2b3b4b5b6b7b8b9bAbBbCbDbEbFc60b1b2b3b4b5b6b7b8b9bAbBbCbDbEbFc70b1b2b3b4b5b6",
    "b7b8b9bAbBbCbDbEbFc80b1b2b3b4b5b6b7b8b9bAbBbCbDbEbFc90b1b2b3b4b5b6b7b8b9bAbBbCbDbEbFcA0b1b2b3",
    "b4b5b6b7b8b9bAbBbCbDbEbFcB0b1b2b3b4b5b6b7b8b9bAbBbCbDbEbFcC0b1b2b3b4b5b6b7b8b9bAbBbCbDbEbFcD0",
    "b1b2b3b4b5b6b7b8b9bAbBbCbDbEbFcE0b1b2b3b4b5b6b7b8b9bAbBbCbDbEbFcF0b1b2b3b4b5b6b7b8b9bAbBbCbD",
    "bEbFdC00b1b2b3b4b5b6b7b8b9bAbBbCbDbEbFc10b1b2b3b4b5b6b7b8b9bAbBbCbDbEbFc20b1b2b3b4b5b6b7b8b9",
    "bAbBbCbDbEbFc30b1b2b3b4b5b6b7b8b9bAbBbCbDbEbFc40b1b2b3b4b5b6b7b8b9bAbBbCbDbEbFc50b1b2b3b4b5b6",
    "b7b8b9bAbBbCbDbEbFc60b1b2b3b4b5b6b7b8b9bAbBbCbDbEbFc70b1b2b3b4b5b6b7b8b9bAbBbCbDbEbFc80b1b2b3",
    "b4b5b6b7b8b9bAbBbCbDbEbFc90b1b2b3b4b5b6b7b8b9bAbBbCbDbEbFcA0b1b2b3b4b5b6b7b8b9bAbBbCbDbEbFcB0",
    "b1b2b3b4b5b6b7b8b9bAbBbCbDbEbFcC0b1b2b3b4b5b6b7b8b9bAbBbCbDbEbFcD0b1b2b3b4b5pFILLER",
    "yMER CURRENCY SYMBOL RIELuDIGIT EIGHTfFIVEdOUReNINEeONEdSEVENeIXdTHREEeWOdZERO",
    "kINDEPENDENT VOWEL LYaYdQAAbIbQbUcEbIaIcOO TYPE ONEdTWOlUaKbUaVeRYaYvLETTER BAcCAbHAbOcOcDAbO",
    "cHAcKAbHAbOcOcLAbOcMOcNGOcNOcObYOdPHAbOcOcQAcROcSAbHAcSOdTAbHAbOcObTHAbOeVOcYOjSIGN AHSDA",
    "eTTHACANhVAKRAHASANYAnBANTOCeRIYOOSANiTHAMASATjEYYALgCAMNUC PII KUUHoOENGfKAKABATgHANdOOMUUT",
    "hLEK TOOhMUUSIKATOANlNIKAHIThPHNAEK MUANlREAHMUKgOBATfSAMYOK SANNYAnTOANDAKHIATkRIISAPhVIRIAM",
    "gYUUKALEAPINTUrYMBOL BEI KOETeROCgUON KOETeROCiDAP KOETeROCe-BEI KOETeROCgUON KOETeROC",
    "iMUOY KOETeROCiPII KOETeROCgRAM KOETeROCmLEK ATTAK BEIcUONeMUOYePIIcRAMa-BEIcUONeMUOYePIIiSON",
    "nMUOY KOETeROCiPATHAMASATjII KOETeROCgRAM KOETeROCe-BEI KOETeROCgUON KOETeROCiMUOY KOETeROC",
    "iPII KOETeROCmTUTEYASATqVOWEL INHERENT AAbQlSIGN AAbEbIbUcEbIaEbIcOEbOcUaAbUcYaAbY",
    "rOJKI ABBREVIATION SIGNrDANDAeOUBLE DANDAfSECTION MARKtLETTER AaAbIbUcBAbBAcHAdCAbHAdDAbDAbDA",
    "cHAdHAdEbGAbGAcHAdHAcIbJAbJAdKAbHAdLAbLAdMAcNAbGAcNAcYAdObPAbHAdQAcRAcSAbHORT IhTAbHAcTAbHAeU",
    "bVAcYAjSECTION MARKlIGN ANUSVARAiNUKTAfSHADDAfUKUNfVIRAMAlVOWEL SIGN AAbIbUcEbIaIcObU",
    "bVOCALIC RuWORD SEPARATORtUDAWADI DIGIT EIGHTfFIVEdOUReNINEeONEdSEVENeIXdTHREEeWOdZERO",
    "kLETTER AaAbIbUcBAbBAcHAdCAbHAdDAbDAbDAcHAdHAdEbGAbGAcHAdHAcIaIcJAbHAcJAdKAbHAdLAcMAcNAbGAcNA",
    "cYAdObPAbHAdRAbRAdSAbHAdTAbHAcTAbHAeUaUcVAcYAjSIGN ANUSVARAiNUKTAfVIRAMAlVOWEL SIGN AAbIbUcE",
    "bIaIcObUaUwIMONOeP SIGNgSSa MARKfING CAT FACE WITH CLOSED EYESzFACEa WITH CLOSED EYES",
    "lSMILING EYES.KITEcWIFRUITiNEELING PERSONnOTdOALAdREAN STANDARD SYMBOLvRONOSgL B BAR SYMBOL",
    "nAB COATfELdCROSSE STICK AND BALLvDDERdY BEETLEjNGUAGE TAGkO CANCELLATION MARKrDIGIT EIGHT",
    "fFIVEdOUReNINEeONEdSEVENeIXdTHREEeWOdZEROkELLIPSISiHO MOcNOfKO LAfLETTER BOcCOcDOcFO SUNGeTAM",
    "gHO SUNGeTAMgKHMU GOcNYOgO SUNGeTAMgOcLO LINGdOOThMOcNGOcObYOdObPALI BHAdCHAdDDAbHAdHAdGHA",
    "dJHAdLLAdNNAcYAdTTAbHAiHO SUNGeTAMgOcSANSKRIT SHAcSAlO SUNGeTAMgTHO SUNGeTAMgOcWOcYO",
    "jNIGGAHITAjSEMIVOWEL SIGN LOcNYOrIGN PALI VIRAMAqTONE MAI CATAWAgEKcTHOcIlVOWEL SIGN AaAbIbM",
    "bYcEaIcIaIcMAI KANcONhObUaUcYaYnYAMAKKANkRGE BLUE CIRCLEgDIAMONDhSQUAREkROWN CIRCLEgSQUARE",
    "mCIRCLEgDOWN TACKjGREEN CIRCLEgSQUAREmLEFT TRIANGLE OPERATOR",
    "wONE DOT OVER TWO DOTS PUNCTUATION.LARGE ONE RING OVER TWO RINGS PUNCTUATION",
    ".LARGE ORANGE CIRCLEgDIAMONDhSQUAREnPURPLE CIRCLEgSQUAREnRED CIRCLEgSQUARE",
    "kTRIPLE VERTICAL BAR OPERATOR.LARGE TWO DOTS OVER ONE DOT PUNCTUATION",
    ".LARGE TWO RINGS OVER ONE RING PUNCTUATION.LARGE UP TACKhYELLOW CIRCLEgSQUAREoR THAN",
    "a OR EQUAL TOuI SIGNhST QUARTER MOONa SYMBOLgWITH FACEzTIN CAPITAL LETTER Aa WITH ACUTEfBREVE",
    "a AND ACUTEfDOT BELOWjGRAVEfHOOK ABOVEkTILDEpCARONeIRCUMFLEXa AND ACUTEfDOT BELOWjGRAVE",
    "fHOOK ABOVEkTILDEuDIAERESISa AND MACRONtOT ABOVEa AND MACRONqBELOWhUBLE GRAVEmGRAVE",
    "fHOOK ABOVEkINVERTED BREVEoMACRONgOGONEKgRING ABOVEa AND ACUTEpBELOWkSTROKEgTILDElAbE",
    "a WITH ACUTEfMACRONnFRICAN DiLPHAeNGLICANA WkObUbVa WITH HORIZONTAL BARvYcBa WITH DOT ABOVE",
    "fBELOWjFLOURISHiHOOKeLINE BELOWkSTROKEgTOPBARmETAdROKEN LiCa WITH ACUTEfBARdCARONeEDILLA",
    "a AND ACUTEqIRCUMFLEXkDOT ABOVEjHOOKePALATAL HOOKmSTROKEmHIcLOSED INSULAR GpONcUATRILLO",
    "a WITH COMMAuDa WITH CARONeEDILLAgIRCUMFLEX BELOWqDOT ABOVEfBELOWjHOOKeLINE BELOW",
    "kSHORT STROKE OVERLAYtMALL LETTER Za WITH CARONyTROKEgTOPBARmZa WITH CARONnEa WITH ACUTE",
    "fBREVEfCARONeEDILLAa AND BREVEqIRCUMFLEXa AND ACUTEfDOT BELOWjGRAVEfHOOK ABOVEkTILDEjBELOW",
    "qDIAERESISiOT ABOVEfBELOWhUBLE GRAVEmGRAVEfHOOK ABOVEkINVERTED BREVEoMACRONa AND ACUTEfGRAVE",
    "qOGONEKgSTROKEgTILDEa BELOWrGYPTOLOGICAL AINcLEFrNGcSHcTaHcZHa REVERSEDiWITH CARONoF",
    "a WITH DOT ABOVEjHOOKeSTROKEnGa WITH ACUTEfBREVEfCARONeEDILLAgIRCUMFLEXkDOT ABOVEjHOOKeMACRON",
    "gOBLIQUE STROKEoSTROKEmAMMAeLOTTAL AbIbSTOPeUjHa WITH BREVE BELOWlCARONeEDILLAgIRCUMFLEX",
    "kDESCENDERiIAERESISiOT ABOVEfBELOWjHOOKeSTROKEmALF HfENGdWAIRfIa WITH ACUTEfBREVEfCARON",
    "eIRCUMFLEXkDIAERESISa AND ACUTEsOT ABOVEfBELOWhUBLE GRAVEmGRAVEfHOOK ABOVEkINVERTED BREVE",
    "oMACRONgOGONEKgSTROKEgTILDEa BELOWrNSULAR DbFbGbRbSbTiOTAdScJa WITH CIRCUMFLEXjROSSED-TAIL",
    "mSTROKEnKa WITH ACUTEfCARONeEDILLAhDESCENDERiIAGONAL STROKEoOT BELOWjHOOKeLINE BELOW",
    "kOBLIQUE STROKEoSTROKEa AND DIAGONAL STROKE.LATIN CAPITAL LETTER La WITH ACUTEfBARcELTeCARON",
    "eEDILLAgIRCUMFLEX BELOWqDOT BELOWa AND MACRONsUBLE BARkHIGH STROKElLINE BELOWkMIDDLE DOT",
    "dTILDEmSMALL LETTER JnTROKEmJcMa WITH ACUTEfDOT ABOVEfBELOWjHOOKkIDDLE SCOTS Si-WELSH LLcVoN",
    "a WITH ACUTEfCARONeEDILLAgIRCUMFLEX BELOWqDESCENDERiOT ABOVEfBELOWjGRAVEfLEFT HOOKiINE BELOW",
    "jONG RIGHT LEGoOBLIQUE STROKEoSMALL LETTER JoTILDElJcOa WITH ACUTEfBREVEfCARONeIRCUMFLEX",
    "a AND ACUTEfDOT BELOWjGRAVEfHOOK ABOVEkTILDEuDIAERESISa AND MACRONtOT ABOVEa AND MACRONqBELOW",
    "hUBLE ACUTEfGRAVEmGRAVEfHOOK ABOVEiRNa AND ACUTEfDOT BELOWjGRAVEfHOOK ABOVEkTILDE",
    "oINVERTED BREVEoLONG STROKE OVERLAYrOPeMACRONa AND ACUTEfGRAVEpIDDLE TILDEmOGONEKa AND MACRON",
    "rSTROKEa AND ACUTEqTILDEa AND ACUTEfDIAERESISjMACRONwIbLD POLISH OlMEGAeObPEN EbOfUcP",
    "a WITH ACUTEfDOT ABOVEjFLOURISHiHOOKeSQUIRREL TAILmTROKEa THROUGH DESCENDER",
    ".LATIN CAPITAL LETTER Qa WITH DIAGONAL STROKEpSTROKE THROUGH DESCENDER.LATIN CAPITAL LETTER R",
    "a ROTUNDAhWITH ACUTEfCARONeEDILLAhDOT ABOVEfBELOWa AND MACRONsUBLE GRAVEmINVERTED BREVE",
    "oLINE BELOWkOBLIQUE STROKEoSTROKEgTAILkEVERSED C WITH DOTkEbHALF HgOPEN EoUM ROTUNDAlS",
    "a WITH ACUTEa AND DOT ABOVEtCARONa AND DOT ABOVEsEDILLAgIRCUMFLEXjOMMA BELOWlDOT ABOVEfBELOW",
    "a AND DOT ABOVExHOOKeOBLIQUE STROKEoSHORT STROKE OVERLAYtWASH TAILqALTILLOhCHWAdRIPT GhHARP S",
    "gIGMOID SiMALL CAPITAL IjQ WITH HOOK TAILwTa WITH CARONeEDILLAgIRCUMFLEX BELOWpOMMA BELOW",
    "lDIAGONAL STROKEoOT ABOVEfBELOWjHOOKeLINE BELOWkRETROFLEX HOOKoSTROKEmHORNa WITH STROKE",
    "a THROUGH DESCENDER.LATIN CAPITAL LETTER TONE FIVEeSIXdTWOhRESILLOhURNED AaLPHAfHbINSULAR GjK",
    "bLbMbTbVhZcUa BARdWITH ACUTEfBREVEfCARONeIRCUMFLEXa BELOWqDIAERESISa AND ACUTEfCARONfGRAVE",
    "fMACRONkBELOWoOT BELOWhUBLE ACUTEfGRAVEmGRAVEfHOOK ABOVEiRNa AND ACUTEfDOT BELOWjGRAVE",
    "fHOOK ABOVEkTILDEoINVERTED BREVEoMACRONa AND DIAERESISuOGONEKgRING ABOVEkSTROKEgTILDE",
    "a AND ACUTEjBELOWrPSILONhVa WITH DIAGONAL STROKEoOT BELOWjHOOKeTILDElENDdISIGOTHIC Z",
    "lOLAPUK AEcOEcUEjYcWa WITH ACUTEfCIRCUMFLEXkDIAERESISiOT ABOVEfBELOWjGRAVEfHOOKkYNNeX",
    "a WITH DIAERESISiOT ABOVEqYa WITH ACUTEfCIRCUMFLEXkDIAERESISiOT ABOVEfBELOWjGRAVEfHOOKa ABOVE",
    "kLOOPeMACRONgSTROKEgTILDElOGHeZa WITH ACUTEfCARONeIRCUMFLEXkDESCENDERiOT ABOVEfBELOWjHOOK",
    "eLINE BELOWkPALATAL HOOKmSTROKEfWASH TAILxIGATURE IJcOEsROSSfEPIGRAPHIC LETTER ARCHAIC M",
    "jI LONGAgNVERTED MkREVERSED FbPkSIDEWAYS I.LATIN LETTER AINcLVEOLAR CLICKoBIDENTAL PERCUSSIVE",
    "rLABIAL CLICKfPERCUSSIVEtDENTAL CLICKmGLOTTAL STOPa WITH STROKEyINVERTED GLOTTAL STOP",
    "a WITH CURLeSTROKE.LATIN LETTER LATERAL CLICKnPHARYNGEAL VOICED FRICATIVE",
    ".LATIN LETTER RETROFLEX CLICKa WITH RETROFLEX HOOK.LATIN LETTER REVERSED ESH LOOP",
    "iGLOTTAL STOP WITH STROKE.LATIN LETTER SINOLOGICAL DOToMALL CAPITAL AaEcBaARRED BiCbDbEaTHcZH",
    "dFbGa WITH HOOKlHbIaNVERTED RkJbKbLa WITH BELTeSTROKEnMbNbOaEbPEN OfUcPbQbRa WITH RIGHT LEG",
    "pEVERSED NbRjUMdSbTaURNED EbGbKbMbRiUbVbWbYbZoTRETCHED Ca WITH CURLvTWO WITH STROKE",
    "pVOICED LARYNGEAL SPIRANTyWYNNeYRjSMALL CAPITAL LETTER I WITH STROKEnU WITH STROKE",
    ".LATIN SMALL LETTER Aa REVERSED-SCHWAoWITH ACUTEfBREVEa AND ACUTEfDOT BELOWjGRAVEfHOOK ABOVE",
    "kTILDEpCARONeIRCUMFLEXa AND ACUTEfDOT BELOWjGRAVEfHOOK ABOVEkTILDEuDIAERESISa AND MACRON",
    "tOT ABOVEa AND MACRONqBELOWhUBLE GRAVEmGRAVEfHOOK ABOVEkINVERTED BREVEoMACRONgOGONEK",
    "gRETROFLEX HOOKnIGHT HALF RINGnNG ABOVEa AND ACUTEpBELOWkSTROKEgTILDElAbEa WITH ACUTEfMACRON",
    "nLPHAa WITH RETROFLEX HOOKyNGLICANA WkObUbVa WITH HORIZONTAL BARvYcBa WITH DOT ABOVEfBELOW",
    "jFLOURISHiHOOKeLINE BELOWkMIDDLE TILDEmPALATAL HOOKmSTROKEgTOPBARmARRED ALPHAfEbOgSELINE ESH",
    "lETAdLACKLETTER EbOa WITH STROKEyOTTOM HALF OmROKEN LiCa WITH ACUTEfBARdCARONeEDILLA",
    "a AND ACUTEqIRCUMFLEXjURLeDOT ABOVEjHOOKePALATAL HOOKmRETROFLEX HOOKoSTROKEmHI",
    "a WITH LOW LEFT SERIFkRIGHT RINGwLOSED INSULAR GjOMEGAePEN EgREVERSED OPEN EvONcUATRILLO",
    "a WITH COMMAuDa WITH CARONeEDILLAgIRCUMFLEX BELOWpURLeDOT ABOVEfBELOWjHOOKa AND TAIL",
    "nLINE BELOWkMID-HEIGHT LEFT HOOKrDLE TILDEmPALATAL HOOKmSHORT STROKE OVERLAYtTROKEgTAILdOPBAR",
    "mB DIGRAPHjELTAdZH DIGRAPHa WITH PALATAL HOOKmRETROFLEX HOOK.LATIN SMALL LETTER DOTLESS IbJ",
    "a WITH STROKEa AND HOOK.LATIN SMALL LETTER DOUBLE Ra WITH CROSSED-TAILtTHORNfWYNNkUMcZ",
    "a DIGRAPHa WITH CURLeRETROFLEX HOOK.LATIN SMALL LETTER DZ WITH CARONnEa WITH ACUTEfBREVE",
    "fCARONeEDILLAa AND BREVEqIRCUMFLEXa AND ACUTEfDOT BELOWjGRAVEfHOOK ABOVEkTILDEjBELOW",
    "qDIAERESISiOT ABOVEfBELOWhUBLE GRAVEmFLOURISHiGRAVEfHOOK ABOVEkINVERTED BREVEoMACRON",
    "a AND ACUTEfGRAVEqNOTCHfOGONEKgRETROFLEX HOOKoSTROKEgTILDEa BELOWrGYPTOLOGICAL AINcLEFrNG",
    "a WITH CROSSED-TAILmPALATAL HOOKuSHa WITH CURLeDOUBLE BARa AND CURLtPALATAL HOOK",
    "mRETROFLEX HOOKwTaHcZHa REVERSEDiWITH CARONeURLePALATAL HOOKmRETROFLEX HOOKoTAILnF",
    "a WITH DOT ABOVEjHOOKeMIDDLE TILDEmPALATAL HOOKmSTROKEmENG DIGRAPHa WITH TRILLxGa WITH ACUTE",
    "fBREVEfCARONeEDILLAgIRCUMFLEXkDOT ABOVEjHOOKeMACRONgOBLIQUE STROKEoPALATAL HOOKmSTROKEmAMMA",
    "eLOTTAL AbIbSTOPeUjHa WITH BREVE BELOWlCARONeEDILLAgIRCUMFLEXkDESCENDERiIAERESISiOT ABOVE",
    "fBELOWjHOOKeLINE BELOWkPALATAL HOOKmSTROKEmALF HfENGa WITH HOOKnVcIa WITH ACUTEfBREVEfCARON",
    "eIRCUMFLEXkDIAERESISa AND ACUTEsOT BELOWhUBLE GRAVEmGRAVEfHOOK ABOVEkINVERTED BREVEoMACRON",
    "gOGONEKgRETROFLEX HOOKoSTROKEa AND RETROFLEX HOOKzTILDEa BELOWrNSULAR DbFbGbRbSbT",
    "hVERTED ALPHAfOEkOTAa WITH STROKEnIFIED EjScJa WITH CARONeIRCUMFLEXjROSSED-TAILmSTROKEnK",
    "a WITH ACUTEfCARONeEDILLAhDESCENDERiIAGONAL STROKEoOT BELOWjHOOKeLINE BELOWkOBLIQUE STROKE",
    "oPALATAL HOOKmSTROKEa AND DIAGONAL STROKE.LATIN SMALL LETTER KRAdLa WITH ACUTEfBARcELT",
    "a AND PALATAL HOOKvCARONeEDILLAgIRCUMFLEX BELOWpURLeDOT BELOWa AND MACRONsUBLE BAR",
    "dMIDDLE TILDEtFISHHOOKiHIGH STROKElINVERTED LAZY SpLINE BELOWkMID-HEIGHT LEFT HOOKrDLE DOT",
    "dRINGeTILDEmPALATAL HOOKmRETROFLEX HOOKa AND BELTxSTROKEmAMBDA WITH STROKErENIS FfZH",
    "a WITH RETROFLEX HOOKxJbONG Sa WITH DIAGONAL STROKEoOT ABOVEjHIGH STROKEwS DIGRAPHjUM",
    "cZ DIGRAPHkMa WITH ACUTEfCROSSED-TAILmDOT ABOVEfBELOWjHOOKeMIDDLE TILDEmPALATAL HOOK",
    "sIDDLE SCOTS Si-WELSH LLcVnUMdNa PRECEDED BY APOSTROPHEwWITH ACUTEfCARONeEDILLA",
    "gIRCUMFLEX BELOWpROSSED-TAILlURLeDESCENDERiOT ABOVEfBELOWjGRAVEfLEFT HOOKiINE BELOW",
    "jONG RIGHT LEGoMID-HEIGHT LEFT HOOKrDLE TILDEmOBLIQUE STROKEoPALATAL HOOKmRETROFLEX HOOK",
    "oTILDElJbUMdOa WITH ACUTEfBREVEfCARONeIRCUMFLEXa AND ACUTEfDOT BELOWjGRAVEfHOOK ABOVEkTILDE",
    "uDIAERESISa AND MACRONtOT ABOVEa AND MACRONqBELOWhUBLE ACUTEfGRAVEmGRAVEfHOOK ABOVEiRN",
    "a AND ACUTEfDOT BELOWjGRAVEfHOOK ABOVEkTILDEoINVERTED BREVEoLONG STROKE OVERLAYrOP",
    "cW RING INSIDEpMACRONa AND ACUTEfGRAVEqOGONEKa AND MACRONrRETROFLEX HOOKoSTROKEa AND ACUTE",
    "qTILDEa AND ACUTEfDIAERESISjMACRONwIbLD POLISH OlMEGAeObPEN Ea WITH RETROFLEX HOOKvO",
    "a WITH RETROFLEX HOOKoSTROKEmEgUcPa WITH ACUTEfDOT ABOVEjFLOURISHiHOOKeMIDDLE TILDE",
    "mPALATAL HOOKmSQUIRREL TAILmTROKEa THROUGH DESCENDER.LATIN SMALL LETTER PHIdQ",
    "a WITH DIAGONAL STROKEpHOOKa TAILjSTROKE THROUGH DESCENDER.LATIN SMALL LETTER QP DIGRAPHkR",
    "a ROTUNDAhWITH ACUTEfCARONeEDILLAgROSSED-TAILmDOT ABOVEfBELOWa AND MACRONsUBLE GRAVEmFISHHOOK",
    "a AND MIDDLE TILDEmPALATAL HOOKzINVERTED BREVEoLINE BELOWjONG LEGiMID-HEIGHT LEFT HOOK",
    "rDLE TILDEmOBLIQUE STROKEoPALATAL HOOKmSTROKEgTAILfOUT HANDLEpAMS HORNiEVERSED Ca WITH DOTkE",
    "aNGdHALF HgKbOPEN Ea WITH HOOKeRETROFLEX HOOK.LATIN SMALL LETTER REVERSED R WITH FISHHOOK",
    "pSCRIPT GqUMa ROTUNDAlSa WITH ACUTEa AND DOT ABOVEtCARONa AND DOT ABOVEsEDILLAgIRCUMFLEX",
    "jOMMA BELOWkURLeDOT ABOVEfBELOWa AND DOT ABOVExHOOKeMID-HEIGHT LEFT HOOKrDLE TILDE",
    "mOBLIQUE STROKEoPALATAL HOOKmSHORT STROKE OVERLAYtWASH TAILqAKHA YAThLTILLOhCHWAa WITH HOOK",
    "eRETROFLEX HOOKxRIPT Ga WITH CROSSED-TAILtRa WITH RINGrHARP SgIDEWAYS DIAERESIZED UnO",
    "a WITH STROKEmPEN OgTURNED MiUiGMOID SiQUAT REVERSED ESHrTIRRUP RjTa WITH CARONeEDILLA",
    "gIRCUMFLEX BELOWpOMMA BELOWkURLeDIAERESISgGONAL STROKEoOT ABOVEfBELOWjHOOK",
    "a AND RETROFLEX HOOKxLINE BELOWkMID-HEIGHT LEFT HOOKrDLE TILDEmPALATAL HOOKmRETROFLEX HOOK",
    "oSTROKEmAILLESS PHIlC DIGRAPH WITH CURLtESH DIGRAPHa WITH PALATAL HOOKmRETROFLEX HOOK",
    ".LATIN SMALL LETTER TH WITH STRIKETHROUGHtORNa WITH STROKEa THROUGH DESCENDER",
    ".LATIN SMALL LETTER TONE FIVEeSIXdTWOgP HALF OjRESILLOhS DIGRAPHa WITH RETROFLEX HOOK",
    ".LATIN SMALL LETTER TUMbRNED AaEbLPHAfDELTAfEbGbHa WITH FISHHOOKa AND TAILyIaNSULAR GjKbLbM",
    "a WITH LONG LEGpO OPEN-Oa WITH STROKEtEa WITH HORIZONTAL STROKErSTROKEnPEN EgRa WITH HOOK",
    "eLONG LEGa AND RETROFLEX HOOK.LATIN SMALL LETTER TURNED R WITH MIDDLE TILDEmPALATAL HOOKmTAIL",
    "lTa WITH CURLlUIcVbWbYa WITH BELTrZcUa BARa WITH SHORT RIGHT LEGyWITH ACUTEfBREVEfCARON",
    "eIRCUMFLEXa BELOWqDIAERESISa AND ACUTEfCARONfGRAVEfMACRONkBELOWoOT BELOWhUBLE ACUTEfGRAVE",
    "mGRAVEfHOOK ABOVEiRNa AND ACUTEfDOT BELOWjGRAVEfHOOK ABOVEkTILDEoINVERTED BREVEoLEFT HOOK",
    "jMACRONa AND DIAERESISuOGONEKgRETROFLEX HOOKnING ABOVEkSHORT RIGHT LEGoTROKEgTILDEa AND ACUTE",
    "jBELOWrEbIbMbObPSILONa WITH STROKEtVa WITH CURLeDIAGONAL STROKEoOT BELOWjHOOKePALATAL HOOK",
    "mRIGHT HOOKkTILDElENDdISIGOTHIC ZlOLAPUK AEcOEcUEjYcWa WITH ACUTEfCIRCUMFLEXkDIAERESIS",
    "iOT ABOVEfBELOWjGRAVEfHOOKeRING ABOVErXa WITH DIAERESISiOT ABOVEjLONG LEFT LEG",
    "a AND LOW RIGHT RINGsWITH SERIFwW RIGHT RINGoPALATAL HOOKtYa WITH ACUTEfCIRCUMFLEXkDIAERESIS",
    "iOT ABOVEfBELOWjGRAVEfHOOKa ABOVEkLOOPeMACRONgRING ABOVEkSHORT RIGHT LEGoTROKEgTILDElOGHeZ",
    "a WITH ACUTEfCARONeIRCUMFLEXjURLeDESCENDERiOT ABOVEfBELOWjHOOKeLINE BELOWkMIDDLE TILDE",
    "mPALATAL HOOKmRETROFLEX HOOKoSTROKEfWASH TAILxIGATURE FFaIbLcIbLcIJcLONG S TiOEcST",
    "qUBSCRIPT SMALL LETTER AbEbHbIbJbKbLbMbNbObPbRbSaCHWAfTbUbVbX.LEAF FLUTTERING IN WINDtY GREEN",
    "jDGEReFT AND LOWER AND RIGHT TRIANGULAR THREE QUARTERS BLOCK.LEFT AND LOWER ONE EIGHTH BLOCK",
    "wRIGHT DOUBLE TURNSTILEqTACKdRIANGULAR HALF BLOCK",
    ".LEFT AND UPPER AND RIGHT TRIANGULAR THREE QUARTERS BLOCK.LEFT AND UPPER ONE EIGHTH BLOCK",
    "yGER BUBBLEjLE BRACKETa WITH DOTvRC LESS-THAN BRACKETtROW WITH CIRCLED PLUSmSMALL CIRCLE",
    "xBARB DOWN RIGHT BARB DOWN HARPOONmUP HARPOON.LEFT BARB UP RIGHT BARB DOWN HARPOONmUP HARPOON",
    ".LEFT BLACK LENTICULAR BRACKETsTORTOISE SHELL BRACKET.LEFT CEILINGgLOSED ENTRYlORNER BRACKET",
    "nURLY BRACKETa LOWER HOOKkMIDDLE PIECEmUPPER HOOKyDOTTED SUBSTITUTION BRACKET",
    "zUBLE ANGLE BRACKETnPARENTHESISlQUOTATION MARKoWIGGLY FENCEtFISH TAILhVE EIGHTHS BLOCKrLOOR",
    "fHALF BLACK CIRCLEgSTARiOCKfCIRCLEa WITH DOTdFOUR DOTSjTHREE DOTSjWO DOTSuFOLDER",
    "gINVERSE MEDIUM SHADE AND RIGHT HALF BLOCK.LEFT HALF MEDIUM SHADEmRUNNING MAN",
    "oND TELEPHONE RECEIVERxLOW PARAPHRASE BRACKETvUGGAGEhMULTIMAP",
    "iNORMAL FACTOR SEMIDIRECT PRODUCT.LEFT ONE EIGHTH BLOCKmQUARTER BLOCKqUTER JOINkPARENTHESIS",
    "a EXTENSIONjLOWER HOOKkUPPER HOOKwRAISED OMISSION BRACKETwIGHT ARROWa THROUGH SMALL CIRCLE",
    "uWITH DOUBLE VERTICAL STROKEwSTROKEgVERTICAL STROKE.LEFT RIGHT BLACK ARROWlDOUBLE ARROW",
    "a WITH STROKEgVERTICAL STROKE.LEFT RIGHT OPEN-HEADED ARROWrSANS-SERIF ARROW",
    "qTRIANGLE-HEADED ARROWvWAVE ARROWjHITE ARROWrS-SHAPED BAG DELIMITERvEMIDIRECT PRODUCT",
    "qVEN EIGHTHS BLOCKsIDEWAYS U BRACKETqNGLE QUOTATION MARKuPEECH BUBBLEmQUARE BRACKET",
    "a EXTENSIONjLOWER CORNERmUPPER CORNERmWITH DOUBLE STROKEnQUILLfSTROKEgTICK IN BOTTOM CORNER",
    "nTOP CORNERsUNDERBAR.LEFT SUBSTITUTION BRACKETuTACKdHIRD WHITE RIGHT POINTING INDEX",
    ".LEFT THOUGHT BUBBLEmREE EIGHTHS BLOCKnQUARTERS BLOCKtORTOISE SHELL BRACKET",
    "vRANSPOSITION BRACKETtIANGLE BESIDE VERTICAL BARwULAR ONE QUARTER BLOCK",
    ".LEFT VERTICAL BAR WITH QUILLnOX LINErWHITE CORNER BRACKETnURLY BRACKETnLENTICULAR BRACKET",
    "sPARENTHESISlSQUARE BRACKEToTORTOISE SHELL BRACKET.LEFT WIGGLY FENCElRITING HAND",
    "n-FACING ARMENIAN ETERNITY SIGNwFISTeSVASTI SIGNa WITH DOTS.LEFT-HANDED INTERLACED PENTAGRAM",
    ".LEFT-POINTING ANGLE BRACKETnCURVED ANGLE BRACKETuDOUBLE ANGLE QUOTATION MARK",
    ".LEFT-POINTING MAGNIFYING GLASSzSHADED WHITE RIGHTWARDS ARROW",
    ".LEFT-SIDE ARC ANTICLOCKWISE ARROW.LEFT-TO-RIGHT EMBEDDINGjISOLATEhMARKeOVERRIDEsWARDS ARROW",
    "a ABOVE ALMOST EQUAL TOpREVERSE ALMOST EQUAL TOpTILDE OPERATORwSHORT RIGHTWARDS ARROW",
    "wTILDE OPERATORtND UPPER AND LOWER ONE EIGHTH BLOCK.LEFTWARDS ARROW FROM BAR",
    "a TO BLACK DIAMONDzOVER RIGHTWARDS ARROWvTHROUGH LESS-THANjSUBSETgXiO BAR",
    "a OVER RIGHTWARDS ARROW TO BAR.LEFTWARDS ARROW TO BLACK DIAMONDqWITH DOTTED STEM",
    "jUBLE VERTICAL STROKEwEQUILATERAL ARROWHEADvHOOKeLARGE TRIANGLE ARROWHEADxOOP",
    "eMEDIUM TRIANGLE ARROWHEADzNOTCHED TAILmPLUS BELOWkSMALL EQUILATERAL ARROWHEAD",
    "vTRIANGLE ARROWHEADxTROKEgTAILa WITH DOUBLE VERTICAL STROKEwVERTICAL STROKEyIP DOWNWARDS",
    "jUPWARDSlVERTICAL STROKEv-TAILkBACK-TILTED SHADOWED WHITE ARROW.LEFTWARDS BLACK ARROW",
    "fCIRCLED WHITE ARROWyOTTOM-SHADED WHITE ARROWzCOMPRESSED ARROWqDASHED ARROWlOUBLE ARROW",
    "a FROM BARiWITH STROKEgVERTICAL STROKEv-TAILkDASH ARROWrFINGER-POST ARROW",
    "qRONT-TILTED SHADOWED WHITE ARROW.LEFTWARDS HANDcRPOON OVER RIGHTWARDS HARPOON",
    "xWITH BARB DOWN ABOVE RIGHTWARDS HARPOON WITH BARB DOWN",
    ".LEFTWARDS HARPOON WITH BARB DOWN BELOW LONG DASHpFROM BARiTO BARhWARDS",
    "jUP ABOVE LEFTWARDS HARPOON WITH BARB DOWN.LEFTWARDS HARPOON WITH BARB UP ABOVE LONG DASH",
    "jRIGHTWARDS HARPOON WITH BARB UP.LEFTWARDS HARPOON WITH BARB UP FROM BARiTO BARhWARDS",
    "yEAVY ARROWfCOMPRESSED ARROWwLEFT-SHADED WHITE ARROWxOPEN-HEADED ARROWrPAIRED ARROWS",
    "mUSHING HANDmQUADRUPLE ARROWpRIGHT-SHADED WHITE ARROWxOCKETgSANS-SERIF ARROWpQUARED ARROW",
    "kIGGLE ARROWoTOP SHADED WHITE ARROWvRIANGLE ARROWHEADk-HEADED ARROW",
    "a OVER RIGHTWARDS TRIANGLE-HEADED ARROW.LEFTWARDS TRIANGLE-HEADED ARROW TO BAR",
    "gWITH BOLD SHAFTkDOUBLE HORIZONTAL STROKEyHEAVY SHAFTlLONG TIP DOWNWARDSjUPWARDSqMEDIUM SHAFT",
    "mNARROW SHAFTmVERY HEAVY SHAFT.LEFTWARDS TRIANGLE-HEADED DASHED ARROWmPAIRED ARROWS",
    ".LEFTWARDS TRIPLE ARROWfDASH ARROWqWO HEADED ARROWn-HEADED ARROW FROM BAR",
    "iWITH DOUBLE VERTICAL STROKEwTAILa WITH DOUBLE VERTICAL STROKEwVERTICAL STROKE",
    "yRIANGLE ARROWHEADStVERTICAL STROKE.LEFTWARDS TWO-HEADED TRIPLE DASH ARROW",
    ".LEFTWARDS WAVE ARROWjHITE ARROWa WITHIN TRIANGLE ARROWHEAD.LEGbMONdOaPARD",
    "fPCHA CONSONANT SIGN KaANGeLbMbNaYIN-DOhPbRbTqDIGIT EIGHTfFIVEdOUReNINEeONEdSEVENeIXdTHREEeWO",
    "dZEROkLETTER AbBAbLAdCAbHAdDAbDAcZAdFAbLAdGAbLAdHAbLAdJAcKAbHAcLAdLAcMAbLAdNAbGAcYAdPAbHAcLA",
    "dRAcSAbHAdTAbHAcSAbHAdTAbHAeVAcWAcYAjPUNCTUATION CER-WAgNYET THYOOM TA-ROLsTA-ROLfSHOOK",
    "a CER-WAzSIGN NUKTAfRANhUBJOINED LETTER RAcYAtVOWEL SIGN AAcEbIbOaOcUaU",
    "sSS-THAN ABOVE DOUBLE-LINE EQUAL ABOVE GREATER-THAN",
    ".LESS-THAN ABOVE GREATER-THAN ABOVE DOUBLE-LINE EQUAL.LESS-THAN ABOVE LEFTWARDS ARROW",
    "pSIMILAR ABOVE GREATER-THANsOR EQUALpLANTED EQUAL ABOVE GREATER-THAN ABOVE SLANTED EQUAL",
    ".LESS-THAN AND NOT APPROXIMATEpSINGLE-LINE NOT EQUAL TO.LESS-THAN BUT NOT EQUAL TOfIVALENT TO",
    "vCLOSED BY CURVEa ABOVE SLANTED EQUAL.LESS-THAN EQUAL TO OR GREATER-THANyOR APPROXIMATE",
    "lEQUAL TOfIVALENT TOnGREATER-THANmSLANTED EQUAL TOa WITH DOT ABOVEa RIGHTlINSIDE",
    ".LESS-THAN OVER EQUAL TOnSIGNeWITH CIRCLE INSIDEnDOTdQUESTION MARK ABOVE.LEVEL SLIDERlIBRA",
    "dGATURE OPEN ET ORNAMENTwHT BLUE HEARTkCHECK MARKkEIGHT SPOKED ASTERISK",
    "vFIVE POINTED BLACK STARsSPOKED ASTERISKtOUR POINTED BLACK CUSPeSTARxGREEK CROSS",
    "lLEFT TORTOISE SHELL BRACKET ORNAMENT.LIGHT RAILdIGHT TORTOISE SHELL BRACKET ORNAMENT",
    ".LIGHT SALTIREgHADEeIX SPOKED ASTERISKtTHREE POINTED BLACK STARxWELVE POINTED BLACK STAR",
    "zVERTICAL BARmWHITE SQUAREnNINGa MOODa BUBBLEtMBU DIGIT EIGHTfFIVEdOUReNINEeONEdSEVENeIX",
    "dTHREEeWOdZEROkEXCLAMATION MARKqLETTER BAbHAdCAbHAdDAbHAdGAbHAcYANeHAcJAbHAdKAbHAdLAcMAcNAbGA",
    "dPAbHAdRAcSAbHAcSAdTAbHAcRAdWAcYAaNkQUESTION MARKnSIGN KEMPHRENGjLOOdMUKPHRENGjSA-I",
    "iMALL LETTER ANUSVARAiKAcLAcMAcNAbGAdPAcRAcTAoUBJOINED LETTER RAcWAcYAtVOWEL SIGN AaIbUcEaEcI",
    "bOaOcUh-CARRIER LETTERxITED LIABILITY SIGNuNE INTEGRATION NOT INCLUDING THE POLE",
    "wWITH RECTANGULAR PATH AROUND POLE.LINE INTEGRATION WITH SEMICIRCULAR PATH AROUND POLE",
    ".LINE SEPARATORkAR A SIGN A028Be100-102g20Bd31Ce301b2b3b4b5b6b7b8b9AbBbCd10b1b2b3AbBbCc4b5b6",
    "b7b8b9c20b1b2b3b4b5b6b7b8b9c30b1b2b3b4b5b6b7b8b9c40b1b2b3b4b5b6b7b8b9c50b1b2b3b4b5b6b7b8b9c60",
    "b1b2b3b4b5b6b7b8b9c70b1d400-VASf1-VASf2-VASf3-VASf4-VASf5-VASf6-VASf7-VASf8-VASf9-VASg10-VAS",
    "f1-VASf2-VASf3-VASf4-VASf5-VASf6-VASf7-VASf8-VASh501b2b3b4b5b6b8b9c10b1b2b3b5b6c20b1b3b4b5b6",
    "b7b8b9c30b1b2b4b5b6b7b8b9c40b1b2b5b7b8b9c50b1b2b3b4b5b6b7b9c63b4b5b6b8b9c70b1b2b3b4b5b6b7b8b9",
    "c80b1b2b3b4b5b6b7b8b9c91b2b4b5b6b8d600b1b2b3b4b6b8b9c10b1b2b3b4b5b6b7b8b9c20b1b2b3b4b6b7b8b9",
    "c34b7b8c40b2b3b4b5b6b8b9c51b2b3b4b5b6b7b8b9c60b1b2b3b4d701 Ad2 Bd3 Dd4 Ed5 Fd6 Hd7 Jd8 Kd9 L",
    "c-2 L2e3 L3e4 L4e6 L6h10 Wd1 Xd2 Yd3 OMEGAh4 ABBf5 BBe7 DDf26 EYYYh32 JEg800b1b2b3b4b5b6b7",
    "dB001b2b3b4b5b6b7b8b9c10b1b3b6b7c20b1aFbMc2aFbMc3aMc4b6b7b8b9c30b1b4b7b8b9c40b1b4b5b6b7b8b9",
    "c50b1b3b4b5b6b7b8b9c60b1b5b6b7b9c70b3b4b6b7b8b9c80b1b2b5b6b7d118c20b2b3c31AbBd64c71c80b8c91",
    "mB IDEOGRAM B100 MANf2 WOMANh4 DEERg5 EQUIDgF MAREgM STALLIONl6F EWEfM RAMg7F SHE-GOAT",
    "kM HE-GOATk8F SOWfM BOARh9F COWfM BULLi20 WHEATh1 BARLEYi2 OLIVEh3 SPICEh5 CYPERUSk30 OIL",
    "f1 WINEg2c40 BRONZEi1 GOLDg2b5 WOOLg6c50b1 HORNg2b3b4b7b8b9 CLOTHi60b1b2 GARMENTj3 ARMOURi4b5",
    "b6b7b8b9c70b1b2b3 MONTHh4b6 TREEg7b8b9c80b1b2b3b4b5b9c90b1 HELMETk220 FOOTSTOOLl5 BATHTUB",
    "k30 SPEARh1 ARROWh2b3 SWORDh4b6c40 WHEELED CHARIOTr1 CHARIOTj2 CHARIOT FRAMEp3 WHEELh5b6b8b9",
    "c51b2b3b4 DARTg5b6b7b8b9eVESSEL B155d200b1b2b3b4b5b6b7b8b9c10b1b2b3b4b5b6b7b8b9c21b2b6b7b8b9",
    "c50d305uMONOGRAM B127 KAPOg8 KANAKOj33 AREPAh5 MERIh56 TURO2j247 DIPTEtSYLLABLE B001 DAe2 RO",
    "e3 PAe4 TEe5 TOe6 NAe7 DIe8 Ad9 SEf10 Ud1 POe2 SOe3 MEe4 DOe5 MOe6 QAe7 ZAf20 ZOe1 QIe3 MU",
    "e4 NEe5 A2e6 RUe7 REe8 Id9 PU2g30 NIe1 SAe2 QOe3 RA3f6 JOe7 TIe8 Ed9 PIf40 WIe1 SIe2 WOe3 A3",
    "e4 KEe5 DEe6 JEe8 NWAg50 PUe1 DUe2 NOe3 RIe4 WAe5 NUe7 JAe8 SUe9 TAf60 RAe1 Od2 PTEf5 JU",
    "e6 TA2f7 KIe8 RO2f9 TUf70 KOe1 DWEf2 PEe3 MIe4 ZEe5 WEe6 RA2f7 KAe8 QEf80 MAe1 KUe5 AUe7 TWE",
    "g90 DWOf1 TWOpMBOL B018b9c22c34c47b9c56c63b4c79c82b3b6b9rK SYMBOLhED PAPERCLIPSpON FACEhPS",
    "aTICKgRA SIGNhSU LETTER AaEcBAcCAbHAdDAbZAdEaUcFAcGAbHAdHAbHAdIbJAcKAbHAdLAcMAcNAbGAdOaEcPA",
    "bHAdSAbHAdTAbHAcONE MYA BOcCYAdJEUdNAcTIgNA POjSAbHAeUaEbHcWAcXAcYAbHAdZAbHA",
    "kPUNCTUATION COMMAfFULL STOPyVRE TOURNOIS SIGNrZARDfLAMAeOBSTERfCKa WITH INK PENpGICAL AND",
    "a WITH DOT ABOVEhUBLE OVERBARhUNDERBARpHORIZONTAL DASHpMIDDLE STEMlUNDERBARrOR",
    "a OVERLAPPING LOGICAL ANDxWITH DOT ABOVEhUBLE OVERBARhUNDERBARpHORIZONTAL DASHpMIDDLE STEM",
    "zLLIPOPgNG DASH FROM LEFT MEMBER OF DOUBLE VERTICAL.LONG DIVISIONhRUMeLEFT RIGHT ARROW",
    "fDOUBLE ARROWsTACKfWARDS ARROWa FROM BARoDOUBLE ARROWa FROM BARvSQUIGGLE ARROWyRIGHT TACK",
    "fWARDS ARROWa FROM BARoDOUBLE ARROWa FROM BARvSQUIGGLE ARROW.LOT OF FORTUNElION BOTTLEkUS",
    "dUDLY CRYING FACEqVE HOTELfLETTERjW ASTERISKiBATTERYgRIGHTNESS SYMBOL",
    "rDOUBLE PRIME QUOTATION MARK.LOW KAVYKAa WITH DOTpLINEfER BLADE SCISSORSoFIVE EIGHTHS BLOCK",
    "sHALF BLOCKfCIRCLEgINVERSE WHITE CIRCLEuMEDIUM SHADErLEFT BALLPOINT PEN",
    "mLOCK DIAGONAL LOWER MIDDLE LEFT TO LOWER CENTREgRIGHT",
    ".LOWER LEFT BLOCK DIAGONAL UPPER CENTRE TO LOWER MIDDLE RIGHTmRIGHTlUPPER MIDDLE RIGHT",
    ".LOWER LEFT BLOCK DIAGONAL UPPER LEFT TO LOWER CENTREgMIDDLE RIGHTsUPPER MIDDLE RIGHT",
    ".LOWER LEFT BLOCK DIAGONAL UPPER MIDDLE LEFT TO LOWER CENTREgMIDDLE RIGHTmRIGHT",
    ".LOWER LEFT CRAYONgFOUNTAIN PENmPAINTBRUSHjENCILgQUADRANT CIRCULAR ARC",
    "vSEMICIRCULAR ANTICLOCKWISE ARROW.LOWER LEFT TRIANGLEcULAR MEDIUM SHADE",
    ".LOWER ONE EIGHTH BLOCKmQUARTER BLOCKrRIGHT BLOCK DIAGONAL LOWER CENTRE TO LOWER MIDDLE RIGHT",
    "sUPPER MIDDLE RIGHTmRIGHTvLEFT TO LOWER MIDDLE RIGHTsUPPER CENTREgMIDDLE RIGHT",
    ".LOWER RIGHT BLOCK DIAGONAL LOWER MIDDLE LEFT TO UPPER CENTREgMIDDLE RIGHTmRIGHT",
    ".LOWER RIGHT BLOCK DIAGONAL UPPER MIDDLE LEFT TO UPPER CENTREgRIGHT",
    ".LOWER RIGHT CORNER WITH DOTpDROP-SHADOWED WHITE SQUARE.LOWER RIGHT PENCIL",
    "gQUADRANT CIRCULAR ARCvSEMICIRCULAR CLOCKWISE ARROW.LOWER RIGHT SHADOWED WHITE CIRCLEgSQUARE",
    "vTRIANGLEcULAR MEDIUM SHADE.LOWER SEVEN EIGHTHS BLOCKtTHREE EIGHTHS BLOCKnQUARTERS BLOCK",
    "tRIANGULAR ONE QUARTER BLOCK.LOZENGEa DIVIDED BY HORIZONTAL RULE.LUGGAGEfNAR ECLIPSEkGS",
    "eYCIAN LETTER AaNcBaHcDbEaNcGbHbIbJbKaKcLbMaMcNaNcPbQbRbSbTaHbTcUbWbXbZnDIAN LETTER AaNcBbCbD",
    "bEaNcFbGbIbKbLaYcMbNaNcObQbRbSaScTaTcUbVbYiTRIANGULAR MARKuING FACEkMACRONeGEbIC WANDhNET",
    "eHAJANI ABBREVIATION SIGNrLETTER AbBAbHAdCAbHAdDAbDAbHAdHAdEbGAbHAdHAcIbJAbHAdKAbHAdLAcMAcNA",
    "bNAcYAdObPAbHAdRAbRAdSAcTAbHAcTAbHAeUbVAiIGATURE SHRInSECTION MARKlIGN NUKTAqJONG TILE AUTUMN",
    "gBACKcMBOOgCHRYSANTHEMUMnEAST WINDiIGHT OF BAMBOOShCHARACTERSjIRCLESqFIVE OF BAMBOOS",
    "hCHARACTERSjIRCLESoOUR OF BAMBOOShCHARACTERSjIRCLESpGREEN DRAGONmJOKERfNINE OF BAMBOOS",
    "hCHARACTERSjIRCLESoORTH WINDkONE OF BAMBOOShCHARACTERSjIRCLESnRCHIDgPLUMeRED DRAGON",
    "kSEVEN OF BAMBOOShCHARACTERSjIRCLESpIX OF BAMBOOShCHARACTERSjIRCLESnOUTH WINDjPRINGfUMMER",
    "gTHREE OF BAMBOOShCHARACTERSjIRCLESpWO OF BAMBOOShCHARACTERSjIRCLESoWEST WINDiHITE DRAGON",
    "lINTERrKASAR ANGKAfEND OF SECTIONoLETTER AbBAcCAcDAcGAcJAcKAcLAcMAcNAbGAcYAdPAcRAcSAcTAcVAcYA",
    "jPASSIMBANGkVOWEL SIGN EbIbObUrEMAKEgLAYALAM AU LENGTH MARKoDATE MARKiIGIT EIGHTfFIVEdOUR",
    "eNINEeONEdSEVENeIXdTHREEeWOdZEROkFRACTION ONE EIGHTHgFIFTHeORTIETHiHALF",
    "eONE-HUNDRED-AND-SIXTIETHyQUARTERhSIXTEENTHjTENTHeWENTIETHnTHREE EIGHTIETHSkQUARTERS",
    "iSIXTEENTHSkTWENTIETHSzLETTER AaAbIbRCHAIC IIjUcBAbHAdCAbHAbILLU KbLaLaLdMbNaNcRRcYiDAbDAbHA",
    "dHAcOT REPHiEaEcGAbHAdHAcIaIcJAbHAdKAbHAdLAbLAbLAeMAcNAbGAcNAbNAdYAdOaOcPAbHAdRAbRAdSAbHAcSA",
    "dTAbHAcTAbHAcTAeUaUcVAbEDIC ANUSVARAnOCALIC LaLcRaRkYAjNUMBER ONE HUNDREDhTHOUSANDmTEN",
    "kSIGN ANUSVARAhVAGRAHAiCANDRABINDUkIRCULAR VIRAMAoOMBINING ANUSVARA ABOVEyPARA",
    "eVERTICAL BAR VIRAMAsIRAMAeSARGAmVOWEL SIGN AAbIbUcEaEcIaIcOaOcUaUcVOCALIC LaLcRaR",
    ".MALE AND FEMALE SIGNpSIGNeWITH STROKE AND MALE AND FEMALE SIGNySIGNsTESE CROSSlMMOTHfN",
    "a AND WOMAN HOLDING HANDSxDANCINGhIN BUSINESS SUIT LEVITATINGyTUXEDOjWITH GUA PI MAOkTURBAN",
    "mAT SIGNhDAIC AFFRICATION MARKqGEMINATION MARKpLETTER ABbDbGbHbINcKaSAdLbMbNbPbQbRbSaHbZcTaT",
    "cZcDUSHENNAiHALQAfINbTcKADdUSHENNAoPUNCTUATIONlVOCALIZATION MARKwGO",
    "cICHAEAN ABBREVIATION MARK ABOVEfBELOWxLETTER AAYINeLEPHeYINeBETHdHETHfDALETHfHAMEDHhFE",
    "cGHIMELfIMELfHEaTHeJAYINeHAYINgKAPHdHAPHfLAMEDHgMEMdNUNdPEcQHOPHeOPHeRESHeSADHEdMEKHfHINdSHIN",
    "fTAWcETHdHAMEDHhWAWdXAPHdOPHeYODHeZAYINeHAYINnNUMBER FIVEeONEa HUNDREDlTENcWENTY",
    "nPUNCTUATION DOTa WITHIN DOTmUBLE DOT WITHIN DOTvFLEURONhLINE FILLERlSTAReTWO DOTSuSIGN UD",
    "pS SHOEgTELPIECE CLOCKoUAL WHEELCHAIRpP SYMBOL FOR LIGHTHOUSEwLE LEAFiRACASeCHEN HEAD MARK",
    "jLETTER -AcAbBAcCAbHAdDAbZAdGAcHAcJAcKAbHAdLAcMAcNAbGAcYAdPAbHAdRAcSAbHAdTAbHAcSAbHAeWAcYAcZA",
    "bHAkMARK SHADjSIGN ANUSVARAiCANDRABINDUpUBJOINED LETTER AbBAcCAbHAdDAbZAdGAcHAcJAcKAbHAdLAcMA",
    "cNAbGAcYAdPAbHAdRAcSAbHAdTAbHAcSAbHAeWAcYAcZAbHAuVOWEL SIGN AAcEbIbObUrRIAGE SYMBOL",
    "mTIAL ARTS UNIFORMsSARAM GONDI DIGIT EIGHTfFIVEdOUReNINEeONEdSEVENeIXdTHREEeWOdZEROkLETTER A",
    "aAbIbUcBAbHAdCAbHAdDAbDAbHAdHAdEbGAbHAdHAcIaIcJAbHAcNYAeKAbHAcSSAeLAbLAdMAcNAbGAcNAcYAdObPA",
    "bHAdRAcSAbHAcSAdTAbHAcRAcTAbHAeUaUcVAcYAjRA-KARAgEPHAfSIGN ANUSVARAiCANDRAgHALANTAhNUKTA",
    "fVISARGAmVIRAMAfOWEL SIGN AAbIbUcEbIaIcObUaUcVOCALIC R.MASCULINE ORDINAL INDICATOR",
    "yK WORK SYMBOLnU MARKhTE DRINKhHEMATICAL BOLD CAPITAL AaLPHAfBaETAeCaHIdDaELTAeIGAMMAhE",
    "aPSILONgTAdFbGaAMMAfHbIaOTAeJbKaAPPAfLaAMDAfMaUcNaUcOaMEGAdICRONhPaHIcIbSIdQbRaHOdSaIGMAfTaAU",
    "cHETAa SYMBOLmUaPSILONhVbWbXaIcYbZaETAmDIGIT EIGHTfFIVEdOUReNINEeONEdSEVENeIXdTHREEeWOdZERO",
    "kEPSILON SYMBOLoFRAKTUR CAPITAL AbBbCbDbEbFbGbHbIbJbKbLbMbNbObPbQbRbSbTbUbVbWbXbYbZjSMALL AbB",
    "bCbDbEbFbGbHbIbJbKbLbMbNbObPbQbRbSbTbUbVbWbXbYbZpITALIC CAPITAL AaLPHAfBaETAeCaHIdDaELTAfE",
    "aPSILONgTAdFbGaAMMAfHbIaOTAeJbKaAPPAfLaAMDAfMaUcNaUcOaMEGAdICRONhPaHIcIbSIdQbRaHOdSaIGMAfTaAU",
    "cHETAa SYMBOLmUaPSILONhVbWbXaIcYbZaETAmEPSILON SYMBOLoKAPPA SYMBOLmNABLAfPARTIAL DIFFERENTIAL",
    "tHI SYMBOLjI SYMBOLjRHO SYMBOLkSMALL AaLPHAfBaETAeCaHIdDaELTAfEaPSILONgTAdFaINAL SIGMAlGaAMMA",
    "fHbIaOTAeJbKaAPPAfLaAMDAfMaUcNaUcOaMEGAdICRONhPaHIcIbSIdQbRaHOdSaIGMAfTaAUcHETAfUaPSILONhVbW",
    "bXaIcYbZaETAkTHETA SYMBOLtKAPPA SYMBOLmNABLAfPARTIAL DIFFERENTIALtHI SYMBOLjI SYMBOL",
    "jRHO SYMBOLkSCRIPT CAPITAL AbBbCbDbEbFbGbHbIbJbKbLbMbNbObPbQbRbSbTbUbVbWbXbYbZjSMALL AbBbCbD",
    "bEbFbGbHbIbJbKbLbMbNbObPbQbRbSbTbUbVbWbXbYbZnMALL AaLPHAfBaETAeCaHIdDaELTAeIGAMMAhEaPSILONgTA",
    "dFaINAL SIGMAlGaAMMAfHbIaOTAeJbKaAPPAfLaAMDAfMaUcNaUcOaMEGAdICRONhPaHIcIbSIdQbRaHOdSaIGMAfT",
    "aAUcHETAfUaPSILONhVbWbXaIcYbZaETAkTHETA SYMBOLrDOUBLE-STRUCK CAPITAL AbBbDbEbFbGbIbJbKbLbMbO",
    "bSbTbUbVbWbXbYjDIGIT EIGHTfFIVEdOUReNINEeONEdSEVENeIXdTHREEeWOdZEROkSMALL AbBbCbDbEbFbGbHbIbJ",
    "bKbLbMbNbObPbQbRbSbTbUbVbWbXbYbZvFALLING DIAGONALpRAKTUR CAPITAL AbBbDbEbFbGbJbKbLbMbNbObPbQ",
    "bSbTbUbVbWbXbYjSMALL AbBbCbDbEbFbGbHbIbJbKbLbMbNbObPbQbRbSbTbUbVbWbXbYbZpITALIC CAPITAL A",
    "aLPHAfBaETAeCaHIdDaELTAfEaPSILONgTAdFbGaAMMAfHbIaOTAeJbKaAPPAfLaAMDAfMaUcNaUcOaMEGAdICRONhP",
    "aHIcIbSIdQbRaHOdSaIGMAfTaAUcHETAa SYMBOLmUaPSILONhVbWbXaIcYbZaETAmEPSILON SYMBOLoKAPPA SYMBOL",
    "mNABLAfPARTIAL DIFFERENTIALtHI SYMBOLjI SYMBOLjRHO SYMBOLkSMALL AaLPHAfBaETAeCaHIdDaELTA",
    "eOTLESS IbJjEaPSILONgTAdFaINAL SIGMAlGaAMMAfIaOTAeJbKaAPPAfLaAMDAfMaUcNaUcOaMEGAdICRONhPaHIcI",
    "bSIdQbRaHOdSaIGMAfTaAUcHETAfUaPSILONhVbWbXaIcYbZaETAkTHETA SYMBOLtLEFT ANGLE BRACKET",
    "nDOUBLE ANGLE BRACKETuFLATTENED PARENTHESISvWHITE SQUARE BRACKEToTORTOISE SHELL BRACKET",
    ".MATHEMATICAL MONOSPACE CAPITAL AbBbCbDbEbFbGbHbIbJbKbLbMbNbObPbQbRbSbTbUbVbWbXbYbZ",
    "jDIGIT EIGHTfFIVEdOUReNINEeONEdSEVENeIXdTHREEeWOdZEROkSMALL AbBbCbDbEbFbGbHbIbJbKbLbMbNbObPbQ",
    "bRbSbTbUbVbWbXbYbZrRIGHT ANGLE BRACKETnDOUBLE ANGLE BRACKETuFLATTENED PARENTHESIS",
    "vWHITE SQUARE BRACKEToTORTOISE SHELL BRACKET.MATHEMATICAL RISING DIAGONAL",
    "pSANS-SERIF BOLD CAPITAL AaLPHAfBaETAeCaHIdDaELTAfEaPSILONgTAdFbGaAMMAfHbIaOTAeJbKaAPPAfL",
    "aAMDAfMaUcNaUcOaMEGAdICRONhPaHIcIbSIdQbRaHOdSaIGMAfTaAUcHETAa SYMBOLmUaPSILONhVbWbXaIcYbZaETA",
    "mDIGIT EIGHTfFIVEdOUReNINEeONEdSEVENeIXdTHREEeWOdZEROkEPSILON SYMBOLoITALIC CAPITAL AaLPHAfB",
    "aETAeCaHIdDaELTAfEaPSILONgTAdFbGaAMMAfHbIaOTAeJbKaAPPAfLaAMDAfMaUcNaUcOaMEGAdICRONhPaHIcIbSI",
    "dQbRaHOdSaIGMAfTaAUcHETAa SYMBOLmUaPSILONhVbWbXaIcYbZaETAmEPSILON SYMBOLoKAPPA SYMBOLmNABLA",
    "fPARTIAL DIFFERENTIALtHI SYMBOLjI SYMBOLjRHO SYMBOLkSMALL AaLPHAfBaETAeCaHIdDaELTAfEaPSILON",
    "gTAdFaINAL SIGMAlGaAMMAfHbIaOTAeJbKaAPPAfLaAMDAfMaUcNaUcOaMEGAdICRONhPaHIcIbSIdQbRaHOdSaIGMA",
    "fTaAUcHETAfUaPSILONhVbWbXaIcYbZaETAkTHETA SYMBOLtKAPPA SYMBOLmNABLAfPARTIAL DIFFERENTIAL",
    "tHI SYMBOLjI SYMBOLjRHO SYMBOLkSMALL AaLPHAfBaETAeCaHIdDaELTAfEaPSILONgTAdFaINAL SIGMAlGaAMMA",
    "fHbIaOTAeJbKaAPPAfLaAMDAfMaUcNaUcOaMEGAdICRONhPaHIcIbSIdQbRaHOdSaIGMAfTaAUcHETAfUaPSILONhVbW",
    "bXaIcYbZaETAkTHETA SYMBOLrCAPITAL AbBbCbDbEbFbGbHbIbJbKbLbMbNbObPbQbRbSbTbUbVbWbXbYbZ",
    "jDIGIT EIGHTfFIVEdOUReNINEeONEdSEVENeIXdTHREEeWOdZEROkITALIC CAPITAL AbBbCbDbEbFbGbHbIbJbKbL",
    "bMbNbObPbQbRbSbTbUbVbWbXbYbZjSMALL AbBbCbDbEbFbGbHbIbJbKbLbMbNbObPbQbRbSbTbUbVbWbXbYbZ",
    "oSMALL AbBbCbDbEbFbGbHbIbJbKbLbMbNbObPbQbRbSbTbUbVbWbXbYbZrCRIPT CAPITAL AbCbDbGbJbKbNbObPbQ",
    "bSbTbUbVbWbXbYbZjSMALL AbBbCbDbFbHbIbJbKbLbMbNbPbQbRbSbTbUbVbWbXbYbZzXIMIZEgYAN NUMERAL EIGHT",
    "aEENhLEVENgFIFTEENfVEdOURaTEENiNINEaTEENiONEdSEVENaTEENiIXaTEENhTENcHIRTEENgREEeWELVEeOdZERO",
    "rEASURED ANGLEa OPENING LEFTmWITH OPEN ARM ENDING IN ARROW POINTING DOWN AND LEFTeRIGHT",
    "oLEFT AND DOWNeUPlRIGHT AND DOWNeUPmUP AND LEFTeRIGHT.MEASURED BYcRIGHT ANGLE WITH DOT",
    ".MEAT ON BONEkCHANICAL ARMdLEGmDEFAIDRIN CAPITAL LETTER AaIbTIUeBbCbDbEbFbGbHPcIbJbKaPcLbMbN",
    "aYcOaEcPbQbRbSbTbUbVbWbXbYaUcZpOMMAfDIGIT EIGHTfFIVEdOUReNINEeONEa ALTERNATE FORMsSEVENeIX",
    "dTHREEa ALTERNATE FORMtWOa ALTERNATE FORMsZEROkEXCLAMATION OHoFULL STOPjNUMBER EIGHTEENhLEVEN",
    "gFIFTEENgOURTEENiNINETEENiSEVENTEENiIXTEENhTENcHIRTEENhWELVEnSMALL LETTER AaIbTIUeBbCbDbEbFbG",
    "bHPcIbJbKaPcLbMbNaYcOaEcPbQbRbSbTbUbVbWbXbYaUcZnYMBOL AIVAuIEVAL COMMAfEXCLAMATION MARK",
    "qQUESTION MARKsUM BLACK CIRCLElOLD WHITE CIRCLErEIGHT POINTED BLACK STARsSPOKED ASTERISK",
    "vFIVE SPOKED ASTERISKtLATTENED LEFT PARENTHESIS ORNAMENTzRIGHT PARENTHESIS ORNAMENT",
    ".MEDIUM FOUR POINTED BLACK STARkPINWHEEL STAR.MEDIUM GREEK CROSSlLEFT CURLY BRACKET ORNAMENT",
    "wPARENTHESIS ORNAMENTv-POINTING ANGLE BRACKET ORNAMENT.MEDIUM MATHEMATICAL SPACE",
    "sRIGHT CURLY BRACKET ORNAMENTwPARENTHESIS ORNAMENTv-POINTING ANGLE BRACKET ORNAMENT",
    ".MEDIUM SALTIREgHADEeIX POINTED BLACK STARsSPOKED ASTERISKsMALL WHITE CIRCLE",
    "sTHREE POINTED BLACK STARkPINWHEEL STAR.MEDIUM VERTICAL BARmWHITE CIRCLEgSQUARE",
    "rETEI MAYEK AHANG KHUDAMlNJIdPUN IYEKjCHEIKHANcEIiDIGIT EIGHTfFIVEdOUReNINEeONEdSEVENeIX",
    "dTHREEeWOdZEROkLETTER ATIYAfBAbHAMeCHAbILeDDAbHAdHOUdILdEbGHOUdOKdHUKdIa LONSUMiJHAMdILdKHOU",
    "dOKa LONSUMkLAIa LONSUMkMITa LONSUMkNAa LONSUMiGOUa LONSUMkNAcYAdObPAa LONSUMiHAMeRAIdSAMcHA",
    "cSAdTHOUdILa LONSUMjTAbHAeUNcWAIdYANGkUM IYEKiSYLLABLE REPETITION MARKyVIRAMAfOWEL SIGN AAIbU",
    "cNAPdUcCHEINAPhIIbNAPeNUNGeONAPeSOUNAPgUNAPdUcVISARGAhYENAPqWORD REPETITION MARK.MELON",
    "cTING FACEkMOcNDE KIKAKUI COMBINING NUMBER HUNDRED THOUSANDSkSiMILLIONSiTEENSdN THOUSANDSkS",
    "dHOUSANDS.MENDE KIKAKUI DIGIT EIGHTfFIVEdOUReNINEeONEdSEVENeIXdTHREEeWOjSYLLABLE M001 KIe2 KA",
    "e3 KUe4 WIe5 WAe6 WUe7 MINf8 MANf9 MUNg10 BIe1 BAe2 BUe3 Id4 Ad5 Ud6 DIe7 DAe8 DUe9 SIf20 SA",
    "e1 SUe2 TIe3 TAe4 TUe5 LIe6 LAe7 LUe8 JIe9 JAf30 JUe1 YIe2 YAe3 YUe4 FIe5 FAe6 FUe7 NINf8 NAN",
    "f9 NUNg40 HEEf1 HAe2 HOOf3 NGGAg4 KPEEg5 WOe6 HUANg7 MBEEg8 KOe9 WVAg50 PUe1 PEe2 HENf3 HIN",
    "f4 LOOf5 TEe6 GBAf7 NGONg8 NYANg9 MENg60 NYONg1 WVIf2 MBAf3 JOe4 NDOf5 KEEf6 POe7 NDOOg8 PI",
    "e9 TOf70 GBOf1 GBOOg2 MBEf3 LEe4 KPUf5 FEe6 KOOf7 VOe8 FEEf9 SOf80 YEe1 PEEf2 NGGUg3 HEEI",
    "g4 LEEf5 VEe6 LONG NGGEl7 HUNf8 FOe9 DEEg90 NGGIg1 TEEf2 KPAf3 GBEEg4 MONf5 KEe6 HEe7 BE",
    "e8 NYENg9 PAg100 Ed1 FANf2 POOf3 BOOf4 TOOf5 LONG MBOOl6 LONG NGGOOm7 GBEf8 KPEf9 YEE",
    "g10 LONG LEj1 GAe2 KPOOg3 JEe4 WOOf5 NGGEEh6 SEe7 NENf8 WEe9 NDEg20 NGGOg1 YOe2 MBUf3 NDI",
    "f4 GBIf5 NDUf6 WEEf7 NGGUAh8 HOOUg9 NDAg30 HANf1 INe2 KPIf3 FOOf4 NJOOg5 INe6 SOOf7 EIe8 BO",
    "e9 WVEg40 HOe1 YOOf2 LONG MBOk3 WEIf4 VOOf5 MBIf6 NGGEg7 Od8 GBUf9 NJEEh50 BEEf1 VUe2 NJA",
    "f3 LOe4 MUANg5 GIe6 NGGOOh7 JEEf8 KPOf9 NGGAAi60 JOOf1 LONG MBEk2 SEEf3 EEe4 NYINg5 OOe6 GUEI",
    "g7 GUANg8 GUe9 NONg70 NYUNg1 RAe2 MBOOg3 VEEf4 MBOf5 LONG JOj6 HIe7 NGUANh8 ENe9 KUAg80 DOO",
    "f1 DOe2 VIe3 LONG NGGOl4 NGENg5 VAe6 HUe7 MBUUg8 MBEEg9 MUENh90 GEEf1 NDEEg2 NJUf3 HONf4 WUI",
    "f5 ANe6 SIAf7 FUA.MENORAH WITH NINE BRANCHESxS SYMBOLjRCURY",
    "eOITIC CURSIVE FRACTION EIGHT TWELFTHSnLEVEN TWELFTHSpFIVE TWELFTHSmOUR TWELFTHS",
    "nNINE TWELFTHSnONE HALFeTWELFTHlSEVEN TWELFTHSnIX TWELFTHSmTEN TWELFTHSlHREE TWELFTHS",
    "nWO TWELFTHSvLETTER AaRCHAIC SAkBAcDAcEbHHAdIbKAbHAdLAcMAcNAbEcObPAcQAcRAcSAbEcTAbEbOcWAcYA",
    "iOGOGRAM IMNdRMTmNUMBER EIGHTa HUNDREDa THOUSANDqTHOUSANDjY THOUSANDpFIFTYa THOUSANDmVE",
    "a HUNDREDa THOUSANDqTHOUSANDmORTYa THOUSANDmURa HUNDREDa THOUSANDqTHOUSANDnNINEa HUNDRED",
    "a THOUSANDqTHOUSANDjTY THOUSANDpONEa HUNDREDa THOUSANDqTHOUSANDmSEVENa HUNDREDa THOUSAND",
    "qTHOUSANDjTYa THOUSANDpIXa HUNDREDa THOUSANDqTHOUSANDjTYa THOUSANDoTENa THOUSANDlHIRTY",
    "a THOUSANDnREEa HUNDREDa THOUSANDqTHOUSANDnWENTYa THOUSANDnOa HUNDREDa THOUSANDqTHOUSAND",
    ".MEROITIC HIEROGLYPHIC LETTER AbBAa-2eDAcEbHHAdIbKAbHAdLAcMAcNAa-2dEa-2eObPAcQAcRAa-2eSAa-2dE",
    "cTAa-2dEa-2dOcWAcYAjSYMBOL VIDJa-2.MERPERSONhTRICAL BREVEfLONG OVER SHORTfTWO SHORTS",
    "uPENTASEMEjSHORT OVER LONGpTETRASEMEiRISEMEgWO SHORTS JOINEDgOVER LONGzOeIAO LETTER AH",
    "bRCHAIC MAcNAbGAdZZAlBAbRIdDAbDAcLHAbYAeZAbHAcYIcZAeFAcGAbHAbHAeHAbHAdKAcLAbHAbYAdYAdMAbHAdNA",
    "aSALIZATIONlGAbHAdHAcNAbHAdYAbHAePAbLAdQAbGAdREFORMED TONE-1b2b4b5b6b8fSHAmTEdSAbHAcSAcYIdTA",
    "bEbLHAbYAeONE-2b3b4b5b6b7b8fSAbEbHAcSAdTAdVAbFAdWAcXAcYI DZHAeKAcNNAdPAcTAbSAbHAdTAgZAbHAcSA",
    "bHAdZAbSAbYAdYAlSIGN ASPIRATIONkCONSONANT MODIFIER BARwREFORMED ASPIRATIONkVOICINGvTONE ABOVE",
    "fBELOWfRIGHTfTOP RIGHToVOWEL SIGN AaAbEaEcHHcIbNaGcUcEaAbIbNaGcRaRdIaAaNaGdEbGbIbNGcOaNGdUcN",
    "aGcOaERbYcGbObUcROUNDED ERaRlUaAaNaGdEIcIbNGcOGcUcVWcWaOcYaIbUIrCRO SIGNfBEcPHONEfSCOPE",
    "iDDLE DOTdTHIRD WHITE RIGHT POINTING INDEX.MIDLINE HORIZONTAL ELLIPSISzLITARY HELMETgMEDAL",
    "lKY WAYgL SIGNhNIBUSdDISCeMIZEfUS SIGNa IN TRIANGLElWITH COMMA ABOVElDOT BELOWjFALLING DOTS",
    "mRISING DOTSvTILDEg-OR-PLUS SIGNpYcRRORa BALLkOBILE PHONEa OFFdWITH RIGHTWARDS ARROW AT LEFT",
    ".MODELScRN PENTATHLONoI ABBREVIATION SIGNrDANDAeIGIT EIGHTfFIVEdOUReNINEeONEdSEVENeIXdTHREE",
    "eWOdZEROjOUBLE DANDAmLETTER AaAbIbUcBAbHAdCAbHAdDAbDAbHAdHAdEbGAbHAdHAcIaIcJAbHAdKAbHAdLAbLA",
    "dMAcNAbGAcNAcYAdObPAbHAdRAcSAbHAcSAdTAbHAcTAbHAeUaUcVAbOCALIC LaLcRaRkYAjSIGN ANUSVARA",
    "hRDHACANDRAlHUVAeVIRAMAeSARGAmVOWEL SIGN AAbIbUcEbIaIcObUaUcVOCALIC LaLcRaR",
    "wFIER BREVE WITH INVERTED BREVEzLETTER ACUTE ACCENTlLVEOLAR CLICKnPOSTROPHEkBEGIN HIGH TONE",
    "jLOW TONEnILABIAL CLICKoCAPITAL AaEcBaARRED BiCbDbEbFbGbHa WITH STROKEnIbJbKbLbMbNbOaUcPbQbR",
    "aEVERSED EbNkTbUbVbWiENTRED LEFT HALF RINGoRIGHT HALF RINGwHINESE TONE YANG PINGeQUcRUcSHANG",
    "jIN PINGeQUcRUcSHANGvIRCUMFLEX ACCENTqOLONeROSS ACCENTlYRILLIC ENcHARD SIGNjSMALL AbBARRED O",
    "hEbYELORUSSIAN-UKRAINIAN IyCHEdDEbZZEeEaFbLbMbRbSa WITH DESCENDERrGHEdHAcIaEcJEcKAcObPALOCHKA",
    "hEcSCHWAeHAcTRAIGHT Ua WITH STROKEwTEbSEdUbVEcYERUa WITH BACK YERrUcZEbHEiOFT SIGN",
    "sDENTAL CLICKlOT HORIZONTAL BARoSLASHfVERTICAL BARoUBLE APOSTROPHEkPRIMEkWN ARROWHEADjTACK",
    "jEND HIGH TONEjLOW TONElXTRA-HIGH DOTTED LEFT-STEM TONE BARsTONE BARpLEFT-STEM TONE BAR",
    "sTONE BARnLOW DOTTED LEFT-STEM TONE BARsTONE BARpLEFT-STEM TONE BARsTONE BARsGEORGIAN NAR",
    "lLOTTAL STOPa WITH STROKExRAVE ACCENTmHALF TRIANGULAR COLONuIGH DOTTED LEFT-STEM TONE BAR",
    "sTONE BARpLEFT-STEM TONE BARsTONE BARnLATERAL CLICKmEFT ARROWHEADjHALF RINGjTACK",
    "iOW ACUTE ACCENTmCIRCUMFLEX ACCENTrDOTTED LEFT-STEM TONE BARsTONE BARnWN ARROWHEAD",
    "oGRAVE ACCENTmINVERTED EXCLAMATION MARKzLEFT ARROWaHEADk-STEM TONE BARsMACRONgRIGHT ARROWHEAD",
    "nNGeTILDEeONE BARiUP ARROWHEADmVERTICAL LINEoER RIGHT CORNER ANGLEyMACRON",
    "fID DOTTED LEFT-STEM TONE BARsTONE BARpLEFT-STEM TONE BARsTONE BARjDLE DOUBLE ACUTE ACCENT",
    "mGRAVE ACCENTtGRAVE ACCENTrNUS SIGNkOPEN SHELFkPLUS SIGNiRIMEfRAISED COLONfDOWN ARROW",
    "kEXCLAMATION MARKqINVERTED EXCLAMATION MARKzUP ARROWoETROFLEX CLICK WITH RETROFLEX HOOK",
    ".MODIFIER LETTER REVERSED COMMAfGLOTTAL STOPa WITH STROKE.MODIFIER LETTER RHOTIC HOOK",
    "kIGHT ARROWHEADjHALF RINGjTACKkSHELFdORT EQUALS SIGNqMALL AaEbINcLPHAfBa WITH HOOKkARRED O",
    "hETAdOTTOM HALF OnCa WITH CURLkAPITAL AAcBbGa WITH HOOKlHbIa WITH STROKEmNVERTED RkL",
    "a WITH BELTlNbOEcRbUbYiHIcLOSED OMEGAfREVERSED OPEN EwDa WITH HOOKa AND TAILnTAILkELTA",
    "dZH DIGRAPHlOTLESS J WITH STROKEa AND HOOK.MODIFIER LETTER SMALL DZ DIGRAPHa WITH CURL",
    "eRETROFLEX HOOK.MODIFIER LETTER SMALL EaNGcSHcTHcZHdFaENG DIGRAPHmGa WITH HOOKkAMMA",
    "eREEK GAMMAfPHIjHa WITH HOOKeSTROKEmENGa WITH HOOKoI WITH STROKEmOTAeJa WITH CROSSED-TAILtKbL",
    "a WITH BELTeINVERTED LAZY SpMIDDLE TILDEmPALATAL HOOKmRETROFLEX HOOKa AND BELT",
    ".MODIFIER LETTER SMALL LEZHa WITH RETROFLEX HOOKxIGATURE OEkS DIGRAPHjZ DIGRAPHkMa WITH HOOK",
    "lN WITH LEFT HOOKjRETROFLEX HOOKvOa WITH STROKEmPEN EbOgPaHIdQbRa WITH FISHHOOKiTAILkAMS HORN",
    "iEVERSED EbGLOTTAL STOPmOPEN EpSa WITH CURLeHOOKkCHWAdRIPT GhIDEWAYS UkTa WITH PALATAL HOOK",
    "mRETROFLEX HOOKuC DIGRAPH WITH CURLtESH DIGRAPHlHETAeOP HALF OjS DIGRAPHa WITH RETROFLEX HOOK",
    ".MODIFIER LETTER SMALL TURNED AaEbLPHAfHbIbMa WITH LONG LEGpOPEN EgRa WITH HOOKeLONG LEG",
    "a AND RETROFLEX HOOK.MODIFIER LETTER SMALL TURNED VbWbYa WITH BELTsUa BARdWITH LEFT HOOK",
    "pPSILONhVa WITH HOOKeRIGHT HOOKrWbXbYbZa WITH CURLeRETROFLEX HOOK",
    ".MODIFIER LETTER STRESS AND HIGH TONEjLOW TONEsUPERSCRIPT HALF TRIANGULAR COLON",
    "vTRIANGULAR COLON.MODIFIER LETTER TRIANGULAR COLONpURNED COMMAmUNASPIRATEDkP ARROWHEADjTACKgS",
    "cVERTICAL LINEmOICINGhYANG DEPARTING TONE MARKxIN DEPARTING TONE MARK.MODULO TWO SUMmNEY BAG",
    "dWITH WINGSl-MOUTH FACEnGOLIAN BIRGAa WITH DOUBLE ORNAMENTpORNAMENTtCOLONdMMAfDIGIT EIGHT",
    "fFIVEdOUReNINEeONEdSEVENeIXdTHREEeWOdZEROjOUBLE BIRGA WITH ORNAMENT.MONGOLIAN ELLIPSIS",
    "iFOUR DOTSiREE VARIATION SELECTOR FOUReONEdTHREEeWO.MONGOLIAN FULL STOPjINVERTED BIRGA",
    "a WITH DOUBLE ORNAMENT.MONGOLIAN LETTER AaLI GALI AaHbNUSVARA ONEmBALUDAgCAcDAaGALGAfMARUfDA",
    "dHALF UbYAhIaNVERTED UBADAMAqKAcNGAcNAdPAbHAdSSAdTAbHREE BALUDAlTAbHAeUBADAMAhVISARGA ONElZA",
    "bHAlNGdBAcCHAa WITH TWO DOTSpIdDAcEaEcFAcGAcHAAdIbJAcKAbHAdLAbHAdMAaNCHU ALI GALI BHAdCAbYA",
    "dDDHAdHAdGHAdJHAdLHAdNGAdSSAdTAbTAdZAbHAmFAcIbKAcRAcZHAkNAcOaEcPAcQAcRAcSAbHAcIBE ANGdCHAdDA",
    "cEbFAcGAaAdHAaAdIaYcJAcKAcPAcRAAdSHAdTAbSAdUaEcZAbHAiTAbODO ALI GALI TAcZHAlNGdBAcCHAdDAbZAdE",
    "bGAaAdHAAdIbJAbIAdKAcLONG VOWEL SIGNpMAcNIAdOaEcPAcQAcTAbSAdUaEcWAcYAgSAdUaEcWAcYAcZAbHIcRA",
    "kMANCHU COMMAfFULL STOPqNIRUGUgROTATED BIRGAa WITH DOUBLE ORNAMENTpORNAMENT",
    ".MONGOLIAN SIBE SYLLABLE BOUNDARY MARKER.MONGOLIAN SWIRL BIRGAa WITH DOUBLE ORNAMENTpORNAMENT",
    "zTODO SOFT HYPHENpRIPLE BIRGA WITH ORNAMENTzURNED SWIRL BIRGA WITH DOUBLE ORNAMENT",
    ".MONGOLIAN VOWEL SEPARATORwKEYa FACEiOGRAM FOR EARTHfYANGdINmRAILeSTABLE SYMBOLpOD BUBBLE",
    "iN CAKEeVIEWING CEREMONYsSEdSQUEbITOgTHER CHRISTMASnOR BOATeSCOOTERiIZED WHEELCHAIRpWAY",
    "gUNT FUJIfAINa BICYCLISTjCABLEWAYiRAILWAYnSEa FACEeTRAPhTHdVIE CAMERAkYAIeRO DANDAeIGIT EIGHT",
    "fFIVEdOUReNINEeONEdSEVENeIXdTHREEeWOdZEROjOUBLE DANDAmLETTER AbBAcCHUdDAaIdEaAcHAIbOdKEAAE",
    "eHAIdOcLAaNdMAEMdIMdNGIcINdOaLbOcPAbHIdRIbOcSHIdTAbEKcHEAeWAcYOmUCH GREATER-THANmLESS-THAN",
    "mLTANI LETTER AbBAbHAdCAbHAdDAbDAbDAcHAdHAdEbGAbHAdHAcIbJAbJAdKAbHAdLAcMAcNAbNAcYAdPAbHAdRA",
    "bHAcRAdSAcTAbHAcTAbHAeUbVAcYAjSECTION MARKqIMAPdPLE MUSICAL NOTESpICATION SIGN",
    "a IN DOUBLE CIRCLEnLEFT HALF CIRCLEqRIGHT HALF CIRCLErTRIANGLElWITH DOT ABOVEjUNDERBARsXlSET",
    "a MULTIPLICATIONoUNIONmSHROOMfIC FLAT SIGNjNATURAL SIGNmSHARP SIGNlAL KEYBOARDa WITH JACKS",
    "tNOTEeSCOREeYMBOL ARPEGGIATO DOWNeUPnBEGIN BEAMePHRASEgSLUReTIEiRACEbKETfEATH MARKiVEbIS",
    "a RESTlC CLEFfAESURAgIRCLE X NOTEHEADqLIMACUSfVISeUSTER NOTEHEAD BLACKfWHITEvODA",
    "cMBINING ACCENTa-STACCATOoUGMENTATION DOTqBENDeDOITcUBLE TONGUElWN BOWiFLAG-1b2b3b4b5eIP",
    "eHARMONICiLOUREfMARCATOa-STACCATOqRIPdSMEAReNAP PIZZICATOnPRECHGESANG STEMqTACCATISSIMOgOgEM",
    "eTENUTOfREMOLO-1b2b3hIPLE TONGUEnUP BOWnMON TIMEkRESCENDOhOIXeUT TIMEiDA CAPOfL SEGNOhMPa ALL",
    "gSHED BARLINEnECRESCENDOjGREE SLASHlOUBLE BARLINEhFLATeSHARPlRUM CLEF-1b2lEIGHTH NOTEeREST",
    "kND BEAMeOF STIMMEjPHRASEgSLUReTIEhF CLEFa OTTAVA ALTAeBASSAsERMATAa BELOWmINAL BARLINE",
    "kGERED TREMOLO-1b2b3qVE-LINE STAFFoLAT DOWNeUPgORTEdUR-LINE STAFFkSTRING FRETBOARDuUSA BLACK",
    "fWHITEkG CLEFa OTTAVA ALTAeBASSAsLISSANDO DOWNeUPlRACE NOTE NO SLASHiSLASHoEGORIAN C CLEF",
    "gF CLEFqHALF NOTEePEDAL MARKkRESThUPTSTIMMElINVERTED TURNnKIEVAN C CLEFgEIGHTH NOTE STEM DOWN",
    "eUPsND OF PIECEmFINAL NOTEjLAT SIGNjHALF NOTEjQUARTER NOTE STEM DOWNeUPuRECITATIVE MARK",
    "pWHOLE NOTEqORONfLEFT REPEAT SIGNpONGAa IMPERFECTA RESTpPERFECTA RESTtMAXIMAfEZZOeINIMA",
    "a BLACKfRESTkOON NOTEHEAD BLACKfWHITEsULTI RESTfPLE MEASURE RESTvNATURAL DOWNeUPjEBENSTIMME",
    "kOTEHEAD BLACKnULL NOTEHEADnONE HUNDRED TWENTY-EIGHTH NOTEeREST.MUSICAL SYMBOL ONE-LINE STAFF",
    "nRNAMENT STROKE-1a0b1c2b3b4b5b6b7b8b9qTTAVA ALTAeBASSAmPARENTHESIS NOTEHEADtEDAL MARKeUP MARK",
    "lS SUBPUNCTISnIANOeLUS NOTEHEADmODATUSfRRECTUSa FLEXUSqQUARTER NOTEeRESTeTONE FLATeSHARP",
    "qINDICESIMA ALTAeBASSAsREPEAT DOTSfED FIGURE-1b2b3pVERSE FINAL BARLINEuIGHT REPEAT SIGN",
    "pNFORZANDOlSCANDICUSa FLEXUSpEGNOdMIBREVIS BLACKfRESTeWHITEmMINIMA BLACKfRESTeWHITEpHARP DOWN",
    "eUPgORT BARLINEmINGLE BARLINEmX-LINE STAFFkSTRING FRETBOARDrTEENTH NOTEeRESTkY-FOURTH NOTE",
    "eRESTqORIdQUARE BbNOTEHEAD BLACKfWHITEuUBITOgTEMPUS IMPERFECTUM CUM PROLATIONE IMPERFECTA",
    "a DIMINUTION-1b2b3xPERFECTA.MUSICAL SYMBOL TEMPUS PERFECTUM CUM PROLATIONE IMPERFECTA",
    "kPERFECTAa DIMINUTION-1.MUSICAL SYMBOL THIRTY-SECOND NOTEeRESTqREE-LINE STAFFpORCULUS",
    "a RESUPINUSrRaIANGLE NOTEHEAD DOWN BLACKfWHITEkLEFT BLACKfWHITEkRIGHT BLACKfWHITElUP BLACK",
    "fRIGHT BLACKfWHITElWHITEs-ROUND NOTEHEAD DOWN BLACKfWHITE.MUSICAL SYMBOL TURNa SLASHfUP",
    "gWO-LINE STAFFoVIRGAeOID NOTEHEADnWHOLE NOTEeRESTjITH FINGERNAILSqX NOTEHEADkZ",
    "pYANMAR CONSONANT SIGN MEDIAL HAcRAcWAcYAiON MEDIAL LAcMAcNAnSHAN MEDIAL WA",
    ".MYANMAR DIGIT EIGHTfFIVEdOUReNINEeONEdSEVENeIXdTHREEeWOdZEROkLETTER AaITON RAhUcBAbHAdCAbHA",
    "dDAbDAbHAdHAdEaASTERN PWO KAREN GHWAeNNAdYWAvGAbHAcREAT SAiHAcIaIcJAbHAdKAbHAaMTI CAbHAdDDA",
    "bHAdHAdFAcGAcHAbHAdJAbHAdNAbYAdRAcSAcTTAbHAeXAcZAjLAbLAdMAbON BBAbEdEbJHAdNGAhNAbGAcNAbYAdYA",
    "dObPAbHAdRAbUMAI PALAUNG FAqSAbGAW KAREN SHAnHAaN AbBAbHAdCAbHAdDAcFAcGAbHAdHAcJHAdKAbHAdNA",
    "bNAcYAdPHAdTHAdZAfWE PALAUNG CHAdSHApSAdTAaI LAING BAbHAdDAbDAbHAdHAdFAcGAbHAdJAbHAdLLAdNNA",
    "cYAmHAcTAbHAeUaUcVOCALIC LaLcRaRkWAbESTERN PWO KAREN PWAdTHAvYAiOGOGRAM KHAMTI HMcOAYdQN",
    "sMODIFIER LETTER KHAMTI REDUPLICATIONuSHAN REDUPLICATION.MYANMAR SHAN DIGIT EIGHTfFIVEdOUR",
    "eNINEeONEdSEVENeIXdTHREEeWOdZEROoIGN ANUSVARAhSATeDOT BELOWjKHAMTI TONE-1b3nLITTLE SECTION",
    "oPAO KAREN TONEoRUMAI PALAUNG TONE-5uSECTIONgHAN COUNCIL EMPHATIC TONEnTONE-2b3oSAWdTONE-2b3",
    "b5b6lTAI LAING TONE-2b5qVIRAMAeSARGAhWESTERN PWO KAREN TONE-1b2b3b4b5",
    ".MYANMAR SYMBOL AFOREMENTIONEDnITON EXCLAMATIONlONEdTWOjCOMPLETEDjGENITIVEiLOCATIVE",
    "iSHAN EXCLAMATIONlONEpTAI LAING DIGIT EIGHTfFIVEdOUReNINEeONEdSEVENeIXdTHREEeWOdZERO",
    "tONE MARK SGAW KAREN HATHIfKE PHO.MYANMAR VOWEL SIGN AAbIaTON AaIiEa ABOVEhGEBA KAREN ImIaI",
    "cKAYAH EEcOEcUhMON IIcOfSGAW KAREN EUmHAN AAcEa ABOVEhFINAL YmTALL AAhUaUcVOCALIC LaLcRaR",
    "kWESTERN PWO KAREN EUcUE.N-ARY CIRCLED DOT OPERATORmPLUS OPERATORnTIMES OPERATORvOPRODUCT",
    "jINTERSECTIONmLOGICAL ANDdORkPRODUCThSQUARE INTERSECTION OPERATORvUNION OPERATORuUMMATION",
    "jTIMES OPERATORoUNIONa OPERATOR WITH DOTdPLUSyWHITE VERTICAL BAR",
    "xABATAEAN CRUCIFORM NUMBER FOURvLETTER ALEPHeYINeBETHeDALETHgFINAL ALEPHfBETHeHEcKAPHeLAMEDH",
    "gMEMdNUNdSHINeYODHkGIMELfHEaTHeKAPHeLAMEDHgMEMdNUNdPEcQOPHeRESHeSADHEdMEKHfHINeTAWcETHeWAW",
    "dYODHeZAYINmNUMBER FIVEdOUReONEa HUNDREDlTENcHREEeWENTYeOrLAdG MUNDARI DIGIT EIGHTfFIVEdOUR",
    "eNINEeONEdSEVENeIXdTHREEeWOdZEROkLETTER AaBbHbJbNYdEaGbLLcMbNaNcTTdIaDDcHbSbTcOaLbNGcPbYcUaC",
    "bDbKbRjSIGN IKIReMUHORfOJODeSUTUHfTOYORuIL POLISHiRA SIGNiME BADGEiNDaINAGARI HEADSTROKE",
    "kLETTER AaAbIbUcBAbHAdCAbHAdDAbDAbHAdHAdEbGAbHAdHAcIaIcJAbHAdKAbHAdLAbLAdMAcNAbGAcNAcYAdObPA",
    "bHAdRAbRAdSAbHAcSAdTAbHAcTAbHAeUaUcVAbOCALIC RaRkYAjSIGN ANUSVARAhVAGRAHAiSIDDHAMhVIRAMA",
    "eSARGAmVOWEL SIGN AAbIbUcEbIaIcObPRISHTHAMATRA EpUaUcVOCALIC RaR.NARROW NO-BREAK SPACE",
    "tTIONAL DIGIT SHAPESmPARKlUSEATED FACEmZAR AMULETlECKTIE",
    "fGATED DOUBLE VERTICAL BAR DOUBLE RIGHT TURNSTILE.NEGATIVE CIRCLED DIGIT ZERO",
    "kLATIN CAPITAL LETTER AbBbCbDbEbFbGbHbIbJbKbLbMbNbObPbQbRbSbTbUbVbWbXbYbZwNUMBER EIGHTEEN",
    "hLEVENgFIFTEENgOURTEENiNINETEENiSEVENTEENiIXTEENhTHIRTEENhWELVEdNTYnSQUAREgTRIANGLE",
    "qDIAGONAL CROSSfDIAMONDhMIDDLE RIGHT TO LOWER CENTRE.NEGATIVE SQUARED ABcCROSS MARKkIC",
    "cLATIN CAPITAL LETTER AbBbCbDbEbFbGbHbIbJbKbLbMbNbObPbQbRbSbTbUbVbWbXbYbZwPAcQUESTION MARKnSA",
    "cWCrITHER A SUBSET OF NOR EQUAL TOuPERSET OF NOR EQUAL TOzPPROXIMATELY NOR ACTUALLY EQUAL TO",
    ".NEITHER GREATER-THAN NOR EQUAL TOfIVALENT TOnLESS-THAN.NEITHER LESS-THAN NOR EQUAL TO",
    "fIVALENT TOnGREATER-THAN.NEPTUNEa FORM TWOoRD FACEhSSUSdT WITH EGGSkING DOLLSlUTER",
    "cRAL CHESS BISHOPa ROTATED NINETY DEGREESoTWO HUNDRED SEVENTY DEGREES",
    ".NEUTRAL CHESS EQUIHOPPERa ROTATED NINETY DEGREES.NEUTRAL CHESS KINGa ROTATED NINETY DEGREES",
    "oTWO HUNDRED SEVENTY DEGREES.NEUTRAL CHESS KNIGHTa ROTATED FORTY-FIVE DEGREESsNINETY DEGREES",
    "oONE HUNDRED THIRTY-FIVE DEGREES.NEUTRAL CHESS KNIGHT ROTATED THREE HUNDRED FIFTEEN DEGREES",
    ".NEUTRAL CHESS KNIGHT ROTATED TWO HUNDRED SEVENTY DEGREESpTWENTY-FIVE DEGREES",
    ".NEUTRAL CHESS PAWNa ROTATED NINETY DEGREESoTWO HUNDRED SEVENTY DEGREES.NEUTRAL CHESS QUEEN",
    "a ROTATED NINETY DEGREESoTWO HUNDRED SEVENTY DEGREES.NEUTRAL CHESS ROOK",
    "a ROTATED NINETY DEGREESoTWO HUNDRED SEVENTY DEGREES.NEUTRAL CHESS TURNED BISHOPgKINGdNIGHT",
    "gPAWNeQUEENfROOKrFACEkW MOON SYMBOLgWITH FACEoSHEQEL SIGNlTAI LUE DIGIT EIGHTfFIVEdOUReNINE",
    "eONEdSEVENeIXdTHREEeWOdZEROkLETTER FINAL BbDbKbMbNaGcVhHIGH BAcDAcFAcHAcKAbVAdLAcMAcNAbGAdPA",
    "bHAdQAcSAbUAdTAbHAcSAdVAcXAbVAdYAhLOW BAcDAcFAcHAcKAbVAdLAcMAcNAbGAdPAbHAdQAcSAbUAdTAbHAcSA",
    "dVAcXAbVAdYAnSIGN LAEaVjTHAM DIGIT ONEnONE MARK-1b2lVOWEL SIGN AAaYcEbYcEbIIbYcOaAaYcYcUaEaY",
    "cUbYcVOWEL SHORTENER.NEWA ABBREVIATION SIGNrCOMMAfDANDAeIGIT EIGHTfFIVEdOUReNINEeONEdSEVENeIX",
    "dTHREEeWOdZEROjOUBLE COMMAfDANDAmGAP FILLERkINSERTION SIGNoLETTER AaAbIbUcBAbHAdCAbHAdDAbDA",
    "bHAdHAdEbGAbHAdHAcIaIcJAbHAdKAbHAdLAbHAdMAbHAdNAbGAbHAdHAcNAcYAbHAeObPAbHAdRAbHAdSAbHAcSAdTA",
    "bHAcTAbHAeUaUcVEDIC ANUSVARAnOCALIC LaLcRaRkWAcYAjOMcPLACEHOLDER MARKqSANDHI MARKkIDDHI",
    "eGN ANUSVARAhVAGRAHAiCANDRABINDUlFINAL ANUSVARAoJIHVAMULIYAlNUKTAfUPADHMANIYAlVIRAMAeSARGA",
    "mVOWEL SIGN AAbIbUcEbIaIcObUaUcVOCALIC LaLcRaRxLINE LEFTeRIGHTkSPAPERhXT PAGEiIGHT WITH STARS",
    "oNE POINTED WHITE STARuJAeKO COMBINING DOUBLE DOT ABOVEqLONG DESCENDING TONEpHIGH TONE",
    "jLOW TONEiRISING TONEqNASALIZATION MARKrSHORT HIGH TONEjLOW TONEiRISING TONEyMAfDANTAYALAN",
    "jIGIT EIGHTfFIVEdOUReNINEeONEdSEVENeIXdTHREEeWOdZEROjOROME SIGNlEXCLAMATION MARK",
    "qHIGH TONE APOSTROPHEuLAJANYALANjETTER AbBAcCHAdDAaGBASINNAkEaEcFAcGBAdHAcIbJAbONA CHAdJAcRA",
    "hKAcLAcMAcNaAa WOLOSOiYAa WOLOSOkOaOcPAcRAbRAdSAcTAcUbWAcYAiOW TONE APOSTROPHE",
    "tSYMBOL GBAKURUNENkOO DENNENqTAMAN SIGNnO BICYCLESiENTRYa SIGNkMOBILE PHONES",
    "nONE UNDER EIGHTEEN SYMBOLzPEDESTRIANSkIRACYgSMOKING SYMBOLp-BREAK SPACEmMINAL DIGIT SHAPES",
    "qSMA SIGNkN-BREAKING HYPHENpPOTABLE WATER SYMBOLvFORKINGiRaDIC MARK SIGNnMAL SUBGROUP OF",
    "a OR EQUAL TO.NORTH EAST AND SOUTH WEST ARROWtRROWa AND SOUTH EAST ARROW",
    "uCROSSING NORTH WEST ARROWqSOUTH EAST ARROWzWITH HOOKpBLACK ARROWlDOUBLE ARROWmPOINTING BUD",
    "dLEAFeVINE LEAFsSANS-SERIF ARROWqTRIANGLE-HEADED ARROWa TO BAR.NORTH EAST WHITE ARROW",
    "qINDIC FRACTION ONE EIGHTHgHALFeQUARTERhSIXTEENTHnTHREE QUARTERSiSIXTEENTHSzPLACEHOLDER MARK",
    "qQUANTITY MARKkRTER MARKmRUPEE MARKqWEST AND SOUTH EAST ARROWtRROWa AND NORTH EAST ARROW",
    "uCROSSING NORTH EAST ARROWzTO CORNERgLONG BARlWITH HOOKpBLACK ARROWlDOUBLE ARROWmPOINTING BUD",
    "dLEAFeVINE LEAFsSANS-SERIF ARROWqTRIANGLE-HEADED ARROWa TO BAR.NORTH WEST WHITE ARROW",
    "rEAST-POINTING AIRPLANEzSEcT A SUBSET OFhPERSET OFmLMOST EQUAL TOoN ELEMENT OF",
    "mSYMPTOTICALLY EQUAL TOxCHECK MARKkEQUAL TOfIVALENT TOnGREATER-THANmIDENTICAL TOmLESS-THAN",
    "jNORMAL SUBGROUP OFa OR EQUAL TO.NOT PARALLEL TOlSIGNdQUARE IMAGE OF OR EQUAL TO",
    "uORIGINAL OF OR EQUAL TO.NOT TILDEeRUEfCHED LEFT SEMICIRCLE WITH THREE DOTS",
    ".NOTCHED LOWER RIGHT-SHADOWED WHITE RIGHTWARDS ARROW.NOTCHED RIGHT SEMICIRCLE WITH THREE DOTS",
    ".NOTCHED UPPER RIGHT-SHADOWED WHITE RIGHTWARDS ARROW.NOTEa PADbGEfBOOKa WITH DECORATIVE COVER",
    ".NUMBER EIGHTEEN FULL STOPrLEVEN FULL STOPqFIFTEEN FULL STOPqOURTEEN FULL STOP",
    "sNINETEEN FULL STOPsSEVENTEEN FULL STOPsIGNcXTEEN FULL STOPrTEN FULL STOPmHIRTEEN FULL STOP",
    "rWELVE FULL STOPnNTY FULL STOPuERO SIGNjSHU CHARACTER-1B170b1b2b3b4b5b6b7b8b9bAbBbCbDbEbFc80",
    "b1b2b3b4b5b6b7b8b9bAbBbCbDbEbFc90b1b2b3b4b5b6b7b8b9bAbBbCbDbEbFcA0b1b2b3b4b5b6b7b8b9bAbBbCbD",
    "bEbFcB0b1b2b3b4b5b6b7b8b9bAbBbCbDbEbFcC0b1b2b3b4b5b6b7b8b9bAbBbCbDbEbFcD0b1b2b3b4b5b6b7b8b9bA",
    "bBbCbDbEbFcE0b1b2b3b4b5b6b7b8b9bAbBbCbDbEbFcF0b1b2b3b4b5b6b7b8b9bAbBbCbDbEbFd200b1b2b3b4b5b6",
    "b7b8b9bAbBbCbDbEbFc10b1b2b3b4b5b6b7b8b9bAbBbCbDbEbFc20b1b2b3b4b5b6b7b8b9bAbBbCbDbEbFc30b1b2b3",
    "b4b5b6b7b8b9bAbBbCbDbEbFc40b1b2b3b4b5b6b7b8b9bAbBbCbDbEbFc50b1b2b3b4b5b6b7b8b9bAbBbCbDbEbFc60",
    "b1b2b3b4b5b6b7b8b9bAbBbCbDbEbFc70b1b2b3b4b5b6b7b8b9bAbBbCbDbEbFc80b1b2b3b4b5b6b7b8b9bAbBbCbD",
    "bEbFc90b1b2b3b4b5b6b7b8b9bAbBbCbDbEbFcA0b1b2b3b4b5b6b7b8b9bAbBbCbDbEbFcB0b1b2b3b4b5b6b7b8b9bA",
    "bBbCbDbEbFcC0b1b2b3b4b5b6b7b8b9bAbBbCbDbEbFcD0b1b2b3b4b5b6b7b8b9bAbBbCbDbEbFcE0b1b2b3b4b5b6b7",
    "b8b9bAbBbCbDbEbFcF0b1b2b3b4b5b6b7b8b9bAbBpITERATION MARKsT AND BOLT",
    "lYIAKENG PUACHUE HMONG CIRCLED CAkDIGIT EIGHTfFIVEdOUReNINEeONEdSEVENeIXdTHREEeWOdZERO",
    "kLETTER AaAcCAcDAbLAdEaEcFAcGAcHAaHdIbKAcLAcMAbLAdNAbCAcKAcPAbLAdQAcRAcTAbSAcXAdYAdOaOcPAbLA",
    "dQAcRAbRAdSAcTAbSAcXAdUbVAcWbXAbYAdYAcZAiOGOGRAM NYAJnSIGN FOR ANIMALgINVERTEBRATEmLOCATION",
    "iPERSONgTHINGjXW XWjYLLABLE LENGTHENERtTONE-BbDbGbJbMbSbV.OBJECT REPLACEMENT CHARACTER",
    ".OBLIQUE ANGLE OPENING DOWNeUPqHYPHENmSERVER EYE SYMBOLsCCULTATIONjR AMOUNT OF CHECK",
    "pBELT BUCKLEkOW TIEgRANCH BANK IDENTIFICATION.OCR CHAIReUSTOMER ACCOUNT NUMBERxDASH",
    "dOUBLE BACKSLASHqFORKeHOOKeINVERTED FORKpTAGONAL SIGNlOPUSgDENdFFICE BUILDING",
    "oGHAM FEATHER MARKmLETTER AILMeBEITHfCEIRTeOLLeDAIReEABHADHfDHADHfMHANCHOLLlFEARNfGORTeIFIN",
    "dODHADHhLUISeMUINeNGEADALgIONeONNcRcPEITHfRUISeSAILdTRAIFgTINNEfUATHdILLEANNhR",
    "jREVERSED FEATHER MARKvSPACE MARKoONEKfHM SIGNhIL DRUMhK HAND SIGNlL CHIKI AHADeDIGIT EIGHT",
    "fFIVEdOUReNINEeONEdSEVENeIXdTHREEeWOdZEROkGAAHLAA TTUDDAAGqLETTER AAJbKbMbWcGbLbNGcTcEDDcNbP",
    "bRRdIHbNYcRbScLAaAcEbIbObUcOBbHbTTcVcUCbDbNNcYjMU TTUDDAGi-GAAHLAA TTUDDAAGtPHAARKAA",
    "hUNCTUATION DOUBLE MUCAADnMUCAADsRELAAmD CHINESE HOOK MARKjITERATION MARK",
    "wHUNGARIAN CAPITAL LETTER AaAbKbMBcNDdCLOSE EhEaBbCaHbScDbEbFbGaYcHbJbKbLaYcMaPcNaCbT",
    "a-SHAPED SIGNnYcPbRbSaZcTaYcVbZaSdIaIcNIKOLSBURG OEcUEnOaEEcOcRUDIMENTA OEcUEmSHORT ERiUaNKcS",
    "bUrNUMBER FIFTYdVEeONEa HUNDREDhTHOUSANDmTENkSMALL LETTER AaAbKbMBcNDdCLOSE EhEaBbCaHbScDbEbF",
    "bGaYcHbJbKbLaYcMaPcNaCbTa-SHAPED SIGNnYcPbRbSaZcTaYcVbZaSdIaIcNIKOLSBURG OEcUEnOaEEcO",
    "cRUDIMENTA OEcUEmSHORT ERiUaNKcSbUzITALIC LETTER AbBEcCHEdDEcEaFbKScLbMbNbRaScSaHbSdHEcIaIcKA",
    "bEbHEcUcNORTHERN TSEmObPEbHEdSHEcOUTHERN TSEmTEbHEdUaUcVEcYEcZEjNUMERAL FIFTYdVEeONEdTENsKEY",
    "dNORTH ARABIAN LETTER AINcLEFeBEHdDADbLdES-1b2b3eFEHdGEEMdHAINfHAHcEHdKAFcHAHeLAMdMEEMeNOON",
    "eQAFdREHdSADdTAHcEHcHALcEHeWAWdYEHdZAHbINlNUMBER ONEdTENcWENTY.OLD PERMIC LETTER ANcBURdCHERY",
    "fDOIcZHOIdITAfEaFcGAIdHAcIaAbEcKOKEeLEIdMENOEfNENOEfOaOcPEEIeREIdSHCHOOIfOOIeIIdTAIcSIUeUbVER",
    "cOOIeYAaTcERaIbUdRYcUcZATAdHOIpSIAN NUMBER HUNDREDhONEdTENcWENTYeOkSIGN AaURAMAZDAAa-2cHAmBA",
    "aGAdUUMISHhCAcDAaHYAAUSHa-2kIbUcFAcGAbUcHAcIbJAbIcKAbUcLAcMAbIbUcNAbUcPAcRAbUcSAbHAcSAdTAbHA",
    "cUcUbVAbIcXAbSHAAYATHIYAmYAcZAhWORD DIVIDERqONAL COMPUTERrSOGDIAN FRACTION ONE HALF",
    "rLETTER ALEPHdTERNATE AYINnYINeBETHeFINAL ALEPHfBETHeHEcNUNa WITH VERTICAL TAILwSADHE",
    "a WITH VERTICAL TAILyTAWa WITH VERTICAL TAIL.OLD SOGDIAN LETTER GIMELfHEaTHeKAPHeLAMEDHgMEM",
    "dNUNdPEcRESH-AYIN-DALETHqSADHEdMEKHfHINeTAWdWAWdYODHeZAYINlIGATURE AYIN-DALETHuNUMBER FIVE",
    "dOUReONEa HUNDREDlTENcHIRTYeREEeWENTYeOqUTH ARABIAN LETTER ALEFdYNdBETHeDALETHfHADHEdLETHhFE",
    "cGHAYNeIMELfHEaTHeKAPHdHETHfLAMEDHgMEMdNUNdQOPHeRESHeSADHEdMEKHeTcHINeTAWcETHdHAWcETHfWAW",
    "dYODHeZAYNlNUMBER FIFTYfONEhERIC INDICATOR.OLD TURKIC LETTER ORKHON AaBbDbEBbDbGbKbLbNbRbSbT",
    "bYcGbLbNbQbRbSaHcTbYcBASHeECbLTcMbNCbGbTbYcPbSHcZcIaCbQcOaEaKcPbQbTjYENISEI AaBbDbEaBbGbKbNaG",
    "cTbYcGbLbNGcQbRbSHcTbYcEaCbNCbTbYcSHcZcIaQcOEaKcQyUYGHUR COMBINING DOT ABOVEfBELOW",
    "jTWO DOTS ABOVEfBELOWyLETTER ALEPHfBETHeFINAL HETHkGIMEL-HETHkKAPHeLAMEDHfESHeMEMdNUNdPEcRESH",
    "eSADHEdMEKHfHINeTAWdWAWdYODHeZAYINmPUNCTUATION BARdFOUR DOTSjTWO BARSeDOTS.OLDER ADULTfMAN",
    "dWOMANjIVEeM SYMBOLiN WITH EXCLAMATION MARK WITH LEFT RIGHT ARROW ABOVE.ONCOMING AUTOMOBILE",
    "kBUSdFIRE ENGINElPOLICE CARkTAXIlE BUTTON MOUSEmDOT LEADERgOVER TWO DOTS PUNCTUATION",
    ".ONE-PIECE SWIMSUITqIONePEN BOOKcXdCENTRE ASTERISKiBLACK STARkCROSSfTEARDROP-SPOKED ASTERISK",
    ".OPEN FILE FOLDERkOLDERgHANDS SIGNkLOCKeMAILBOX WITH LOWERED FLAGmRAISED FLAGySUBSETePERSET",
    "j-CIRCUIT-OUTPUT H-TYPE SYMBOLnL-TYPE SYMBOL.OPEN-OUTLINED RIGHTWARDS ARROW.OPHIUCHUS",
    "hPOSITIONiTICAL DISCa ICONnON KEYjR WITH DOT INSIDEqANGE BOOKeHEARThUTANhCUSdIGINAL OF",
    "iYA AI LENGTH MARKnU LENGTH MARKoDIGIT EIGHTfFIVEdOUReNINEeONEdSEVENeIXdTHREEeWOdZERO",
    "kFRACTION ONE EIGHTHgHALFeQUARTERhSIXTEENTHnTHREE QUARTERSiSIXTEENTHSzISSHARgLETTER AaAbIbU",
    "cBAbHAdCAbHAdDAbDAbHAdHAdEbGAbHAdHAcIaIcJAbHAdKAbHAdLAbLAdMAcNAbGAcNAcYAdObPAbHAdRAbHAcRAdSA",
    "bHAcSAdTAbHAcTAbHAeUaUcVAbOCALIC LaLcRaRkWAcYAbYAkSIGN ANUSVARAhVAGRAHAiCANDRABINDUlNUKTA",
    "fOVERLINEiVIRAMAeSARGAmVOWEL SIGN AAbIbUcEbIaIcObUaUcVOCALIC LaLcRaRzNATE LEFT PARENTHESIS",
    "qRIGHT PARENTHESISwTHODOX CROSSnSAGE CAPITAL LETTER AaHbIaNdBRAdCHAdDHAdEaHCHAdKAcPAcTAbSAeIN",
    "dGHAdHAbYAdIbKAbHAcYAdLAcMAcNAcOaINdPAcSAbHAdTAbSAbHAeUbWAcZAbHAsSMALL LETTER AaHbIaNdBRAdCHA",
    "dDHAdEaHCHAdKAcPAcTAbSAeINdGHAdHAbYAdIbKAbHAcYAdLAcMAcNAcOaINdPAcSAbHAdTAbSAbHAeUbWAcZAbHA",
    "uMANYA DIGIT EIGHTfFIVEdOUReNINEeONEdSEVENeIXdTHREEeWOdZEROkLETTER AaAbLEFeBAcCAYNeDEELdHAdE",
    "aEcFAcGAcHAcIbJAcKAAFdHAdLAANeMIINeNUUNeOaOcQAAFeRAcSAbHIINfTAcUbWAWdXAcYAqTTER",
    "cOMAN SIYAQ ALTERNATE NUMBER EIGHTfFIVEdOURa HUNDREDmNINEeSEVENeIXa HUNDREDlTENa THOUSAND",
    "lHREEeWOa THOUSAND.OTTOMAN SIYAQ FRACTION ONE HALFeSIXTHsMARRATANiNUMBER EIGHTa HUNDRED",
    "hTHOUSANDjYa THOUSANDpFIFTYa THOUSANDmVEa HUNDREDhTHOUSANDmORTYa THOUSANDmURa HUNDRED",
    "hTHOUSANDnNINEa HUNDREDhTHOUSANDjTYa THOUSANDpONEa HUNDREDhTHOUSANDmSEVENa HUNDREDhTHOUSAND",
    "jTYa THOUSANDpIXa HUNDREDhTHOUSANDjTYa THOUSANDoTENa THOUSANDlHIRTYa THOUSANDnREEa HUNDRED",
    "hTHOUSANDnWENTYa THOUSANDnOa HUNDREDhTHOUSAND.OUNCE SIGNiTBOX TRAYiLINED BLACK STAR",
    "kGREEK CROSSlLATIN CROSSlWHITE STARsVERHEATED FACElLAPaPING BLACK SQUARES",
    "nWHITE AND BLACK SQUARESrSQUARESuINEhWLcXbYSTERgPACKAGEfGEa FACING UPjWITH CIRCLED TEXTlURLkR",
    "bScODAeHAWH HMONG CLAN SIGN FAJdHAMbWJeKHABdOOcWMdLAUJdISdMUASePHABeTHOJdSABcHEEJeWBeVAJcWJ",
    "dXYOOJfYAJcEEGnONSONANT AUcCAUcHAUeHAUcLAUdNAUeLAUdMAUdNAUcCHAUeKAUdLAUdTHAUdSAUfPLHAUfQHAU",
    "eRAUdVAUdXAUdYAUnDIGIT EIGHTfFIVEdOUReNINEeONEdSEVENeIXdTHREEeWOdZEROkMARK CIM HOMdKEScHAVeSO",
    "bUAMeTAUMdUBmNUMBER HUNDRED MILLIONSjSiMILLIONSiTEN BILLIONSiTHOUSANDSkSdRILLIONSqSIGN AV",
    "cCIM CHEEMeUAM TSHOOJlHAIS LUS NTOG NTOGsNRES TOSiPUB DAWBiTSOV ROGhXWVa CHWVnHLIcNUBeIB YAM",
    "gLOSdMEEJ SUABeTSEEBjUSdNQIGdTUJeTAUcHIRD-STAGE HLIoXHEEJ CEEVlVOS FEEMeLUBdNRUAeSEEVeTHIAB",
    "dOMdSHAB CEEBoXAUSdIABdYEEM FAIBeNTXIVfRHOdTOVhOOeZWJ THAJnVOWEL KAABbVcBbIBbVcUBbVcVbWBbVdEB",
    "bEBbVcVcIABbVcBbVcOBbOBbVcVcUABbVcBbVcWBbVuLLASdM BRANCHgDOWN HANDjTREEeUP HANDiS UP TOGETHER",
    "nYRENE LEFT-POINTING FLEURONtTTER ALEPHeYINeBETHeDALETHgFINAL NUNjGIMELfHEaTHeKAPHeLAMEDHgMEM",
    "dNUNdPEcQOPHeRESHeSADHEdMEKHfHINeTAWcETHeWAWdYODHeZAYINmNUMBER FIVEdOUReONEdTENcHREEeWENTYeO",
    "kRIGHT-POINTING FLEURON.PANCAKESfDA FACEiPERCLIPhRACHUTEfGRAPH SEPARATORkOScUS MARKmLLEL TO",
    "cWITH HORIZONTAL STROKErTILDE OPERATORzENTHESIZED DIGIT EIGHTfFIVEdOUReNINEeONEdSEVENeIX",
    "dTHREEeWOjHANGUL CHIEUCHa AiIEUCa AbUhHIEUHa AhIEUNGa AhKHIEUKHa AiIYEOKa AiMIEUMa AhNIEUNa A",
    "hPHIEUPHa AiIEUPa AhRIEULa AhSIOSa AgTHIEUTHa AiIKEUTa ApIDEOGRAPH ALLIANCEiCALL",
    "dONGRATULATIONoEARTHeIGHTeNTERPRISEkFESTIVALhINANCIALhREcVEdOUReHAVEeLABORfMETALeOONeNAMEdINE",
    "eONEdREACHdPRESENThSOURCEfTeSELFcVENeIXcOCIETYgPECIALgTOCKdUDYeUNbPERVISEjTENcHREEeWOdWATER",
    "eOODoKOREAN CHARACTER O HUdJEONwLATIN CAPITAL LETTER AbBbCbDbEbFbGbHbIbJbKbLbMbNbObPbQbRbSbT",
    "bUbVbWbXbYbZqSMALL LETTER AbBbCbDbEbFbGbHbIbJbKbLbMbNbObPbQbRbSbTbUbVbWbXbYbZuNUMBER EIGHTEEN",
    "hLEVENgFIFTEENgOURTEENiNINETEENiSEVENTEENiIXTEENhTENcHIRTEENhWELVEdNTYyROTdT ALTERNATION MARK",
    "rIAL DIFFERENTIALnLY-RECYCLED PAPER SYMBOL.PARTNERSHIP SIGNmY POPPERkSSED SYMBOLiNGER SHIP",
    "kIVE-PULL-DOWN-OUTPUT SYMBOLsUP-OUTPUT SYMBOLzPORT CONTROLoU CIN HAU GLOTTAL STOPa FINAL",
    "fVARIANTuLETTER AbBAcCAbHAdDAcEbFAbINAL KbLbMbNaGcPbTbWbYhGAcHAcIaAcKAbHAdLAcMAcNAbGAdObPAbHA",
    "dRAcSAcTAbHAdUaAcVAcZAiOW-FALLING TONEa FINALfLONGa FINAL.PAU CIN HAU MID-LEVEL TONEa FINAL",
    "fLONG FINALzRISING TONEa FINALfLONGa FINALwSANDHI GLOTTAL STOPa FINALsTONEa FINALfLONGa FINAL",
    ".PAW PRINTSjEA PODeCE SYMBOLiHbOCKeNUTSeRcDESTRIANiN OVER STAMPED ENVELOPEwCILdGUINeSIVE FACE",
    "jTAGRAMhOPLE HUGGINGmR MILLE SIGNkSIGNeTEN THOUSAND SIGNsCENT SIGNjFORMING ARTS",
    "mMANENT PAPER SIGNrPENDICULARa WITH SrSEVERING FACEmON BOWING DEEPLYnCLIMBINGiDOING CARTWHEEL",
    "pFROWNINGiIN LOTUS POSITIONoSTEAMY ROOMoRAISING BOTH HANDS IN CELEBRATION.PERSON WITH BALL",
    "dLOND HAIRkCROWNfFOLDED HANDSmHEADSCARFjPOUTING FACEsAL COMPUTERnPECTIVEjSETA SIGNiO SIGN",
    "hTRI DISHjHAGS-PA DOUBLE HEAD MARKqLETTER AaLTERNATE YAlSPIRATED FAmBAcCAaNDRABINDUkHAdDAbDA",
    "cZAdEaEcFAcGAbGAdHAcIbJAcKAbHAdLAcMAcNAbGAcNAcYAdObPAbHAdQAcRAcSAbHAcMALL AhTAbHAcSAbHAdTAbHA",
    "eUbVOICED HAeLESS SHAnWAcXAcYAcZAbHAkMARK DOUBLE SHADlSHADjSINGLE HEAD MARK",
    "pUBJOINED LETTER RAcWAcYArPERFIXED LETTER RA.PHAISTOS DISC SIGN ARROWfBEEaHIVEgOOMERANGhW",
    "cULLS LEGjCAPTIVEfRPENTRY PLANEnTcHILDeLUBdOLUMNeMBaINING OBLIQUE STROKEyDOLIUMeVEeEAGLE",
    "fFLUTEfGAUNTLEThRATERgHELMETfIDEdORNeLIDbLYeMANACLESgTTOCKhOX BACKhPAPYRUSgEDESTRIAN",
    "jLANE TREEiUMED HEADlRAMcOSETTEhSAWcHIELDdPdLINGeMALL AXEiTRAINERiTATTOOED HEADmIARAeUNNY",
    "fVINEeWAVY BANDiOMANwILIPPINE DOUBLE PUNCTUATIONsSINGLE PUNCTUATION.PHOENICIAN LETTER AINcLF",
    "dBETdDELTeGAMLeHEaTdKAFdLAMDeMEMdNUNdPEcQOFdROSHeSADEdEMKdHINeTAUcETdWAUdYODdZAIkNUMBER ONE",
    "a HUNDREDlTENcHREEeWENTYeOkWORD SEPARATORwLUSfICKaUP TRUCKkEbGa FACEeNOSEgLCROW SIGNjE OF POO",
    "iLcNATAdCHED FINGERSkING HANDkE DECORATIONlAPPLEgK HEARThWHEEL STARlSCESdTOLeTCHFORK",
    "a WITH TEE TOPvLACARDdE OF INTEREST SIGNnWORSHIPnNCK CONSTANTa OVER TWO PIyYGROUND SLIDE",
    "mING CARD ACE OF CLUBSfDIAMONDSiHEARTSgSPADESnBACKdLACK JOKERlEIGHT OF CLUBSfDIAMONDSiHEARTS",
    "gSPADESpFIVE OF CLUBSfDIAMONDSiHEARTSgSPADESnOOLcUR OF CLUBSfDIAMONDSiHEARTSgSPADES",
    "oJACK OF CLUBSfDIAMONDSiHEARTSgSPADESoKING OF CLUBSfDIAMONDSiHEARTSgSPADESnNIGHT OF CLUBS",
    "fDIAMONDSiHEARTSgSPADESqNINE OF CLUBSfDIAMONDSiHEARTSgSPADESoQUEEN OF CLUBSfDIAMONDSiHEARTS",
    "gSPADESpRED JOKERjSEVEN OF CLUBSfDIAMONDSiHEARTSgSPADESoIX OF CLUBSfDIAMONDSiHEARTSgSPADES",
    "nTEN OF CLUBSfDIAMONDSiHEARTSgSPADESmHREE OF CLUBSfDIAMONDSiHEARTSgSPADESoRUMP-1a0b1b2b3b4b5",
    "b6b7b8b9c2a0b1c3b4b5b6b7b8b9gWO OF CLUBSfDIAMONDSiHEARTSgSPADESnWHITE JOKERwUNGEReS SIGN",
    "a ABOVE EQUALS SIGNrIN LEFT HALF CIRCLEqRIGHT HALF CIRCLErTRIANGLElWITH BLACK TRIANGLE",
    "oCIRCUMFLEX ACCENT ABOVExDOT BELOWjSMALL CIRCLE ABOVErUBSCRIPT TWOnTILDE ABOVEfBELOW",
    "w-MINUS SIGNmTOa FORM FIVEdOUReTHREEeWOnOCKET CALCULATORpLICE CARaS REVOLVING LIGHTuOFFICER",
    "mODLEeP DIRECTIONAL FORMATTINGkISOLATEuCORNfRTABLE STEREOnSEIDONfITION INDICATORpTAL HORN",
    "eMARKa FACEmBOXfT OF FOODiABLE WATER SYMBOLqTOdTED PLANTkUCHcLTRY LEGiND SIGNhRING LIQUID",
    "lTING CAT FACEiFACEkWER ON SYMBOLh-OFF SYMBOLnSLEEP SYMBOLlYMBOLlRAYER BEADSkECEDES",
    "a ABOVE ALMOST EQUAL TOpEQUALS SIGNlNOT ALMOST EQUAL TOpEQUAL TOmSINGLE-LINE EQUALS SIGN",
    "lNOT EQUAL TO.PRECEDES BUT NOT EQUIVALENT TOvOR EQUAL TOfIVALENT TOqUNDER RELATIONuGNANT MAN",
    "dPERSONgWOMANlSCRIPTION TAKEnENTATION FORM FOR VERTICAL COLONdMMAfEM DASHgN DASH",
    "gXCLAMATION MARKqHORIZONTAL ELLIPSIStIDEOGRAPHIC COMMAfFULL STOPvLEFT ANGLE BRACKET",
    "nBLACK LENTICULAR BRACKETyCORNER BRACKETnURLY BRACKETnDOUBLE ANGLE BRACKETuPARENTHESIS",
    "lSQUARE BRACKEToTORTOISE SHELL BRACKETwWHITE CORNER BRACKEToLENTICULAR BRACKET",
    ".PRESENTATION FORM FOR VERTICAL LOW LINEiQUESTION MARKnRIGHT ANGLE BRACKET",
    "nBLACK LENTICULAR BRACKETyCORNER BRACKETnURLY BRACKETnDOUBLE ANGLE BRACKETuPARENTHESIS",
    "lSQUARE BRACKEToTORTOISE SHELL BRACKETwWHITE CORNER BRACKEToLENTICULAR BRAKCET",
    ".PRESENTATION FORM FOR VERTICAL SEMICOLONjTWO DOT LEADERoWAVY LOW LINE.PRETZELeVIOUS PAGElIME",
    "cNCEaSSeT SCREEN SYMBOLoERa ICONkOBING CANEjHIBITED SIGNmJECTIVEhPERTY LINEjORTIONaAL TO",
    "mSERPINAjSALTER PAHLAVI FOUR DOTS WITH CROSSfDOTsLETTER ALEPHfBETHeDALETHgGIMELfHEaTHeKAPH",
    "eLAMEDHgMEM-QOPHiNUNdPEcSADHEdMEKHfHINeTAWdWAW-AYIN-RESHnYODHeZAYINmNUMBER FOUReONEa HUNDRED",
    "lTENcHREEeWENTYeOkSECTION MARKmTURNED SECTION MARK.PUBLIC ADDRESS LOUDSPEAKERyNCTUATION SPACE",
    "lS ELEVATUS MARKtRPLE HEARTjSEdSHPINfT LITTER IN ITS PLACE SYMBOL.QUADRANT LOWER LEFTeRIGHT",
    "lUPPER LEFTa AND LOWER LEFT AND LOWER RIGHTuRIGHTlUPPER RIGHT AND LOWER LEFTeRIGHT",
    ".QUADRANT UPPER RIGHTa AND LOWER LEFTa AND LOWER RIGHT.QUADRUPLE INTEGRAL OPERATORrPRIMEmOAR",
    "dRTER NOTEjTERNION INTEGRAL OPERATOR.QUESTION EXCLAMATION MARKqMARKfED EQUAL TOrINCUNX",
    "gOTATION MARKoRABBITa FACEjCCOONeING CARdMOTORCYCLEpDICAL SYMBOL BOTTOMrOa BUTTONhACTIVE SIGN",
    "oILWAY CARdTRACKkNaBOWeSED BACK OF HANDmCOMMAfDOTaTED INTERPOLATION MARKER.RAISED FISTeHAND",
    "a WITH FINGERS SPLAYEDpPART BETWEEN MIDDLE AND RING FINGERS.RAISED INTERPOLATION MARKER",
    "uMC SIGNgD SIGNgR SIGNhSQUARElMbTaIOdZOReECEIPTeREATIONAL VEHICLErYCLED PAPER SYMBOL",
    "pING SYMBOL FOR GENERIC MATERIALSrTYPE-1 PLASTICSk2 PLASTICSk3 PLASTICSk4 PLASTICSk5 PLASTICS",
    "k6 PLASTICSk7 PLASTICS.RED APPLEfGIFT ENVELOPEpFERENCE MARKmGIONAL INDICATOR SYMBOL LETTER A",
    "bBbCbDbEbFbGbHbIbJbKbLbMbNbObPbQbRbSbTbUbVbWbXbYbZ.REGISTERED SIGNnJANG CONSONANT SIGN HbNaG",
    "cRqLETTER AbBAcCAcDAcGAcHAcJAcKAcLAcMAbBAdNAbDAcGAbGAdYAbJAePAcRAcSAcTAcWAcYAjSECTION MARK",
    "mVIRAMAfOWEL SIGN AIbUcEaAbUcIbObUrLIEVED FACElMINDER RIBBONnPLACEMENT CHARACTERtSPONSE",
    "fTRICTED LEFT ENTRY-1b2sOOMgTURN LEFTeRIGHTfSYMBOLlVERSE CHECKER BOARD",
    "nLIGHT FOUR POINTED PINWHEEL STAR.REVERSE SOLIDUSa OPERATORiPRECEDING SUBSET",
    "qWITH HORIZONTAL STROKE.REVERSE TILDE OPERATOR ABOVE LEFTWARDS ARROWpRIGHTWARDS ARROW",
    ".REVERSED ANGLEa WITH UNDERBARtCOMMAfDOUBLE PRIMEa QUOTATION MARKuSTROKE NOT SIGNwEMPTY SET",
    "jFORKED PARAGRAPHOSsHAND WITH MIDDLE FINGER EXTENDED.REVERSED NOT SIGNiPILCROW SIGNlRIME",
    "fQUESTION MARKnRAISED HAND WITH FINGERS SPLAYED.REVERSED RIGHT ANGLE",
    "kOTATED FLORAL HEART BULLET.REVERSED SANS-SERIF CAPITAL LtEMICOLONjTHUMBS DOWN SIGNjUP SIGN",
    "nILDEa EQUALSlRIPLE PRIMEmVICTORY HANDsOLVING HEARTSpHINOCEROSjIAL SIGNhBBONa ARROW DOWN LEFT",
    "eRIGHTkLEFT DOWNeUPhRIGHT DOWNeUPiUP LEFTeRIGHTtCE BALLeCRACKERkFLE",
    "dGHT AND LOWER ONE EIGHTH BLOCKwUPPER ONE EIGHTH BLOCKyGER BUBBLEjLEa BRACKETa WITH DOT",
    "qDOTTED SUBSTITUTION MARKER.RIGHT ANGLE SUBSTITUTION MARKERtVARIANT WITH SQUAREtWITH ARC",
    "dDOWNWARDS ZIGZAG ARROW.RIGHT ARC GREATER-THAN BRACKETwROW WITH CIRCLED PLUSmSMALL CIRCLE",
    "xBLACK LENTICULAR BRACKETsTORTOISE SHELL BRACKET.RIGHT CEILINGgORNER BRACKETnURLY BRACKET",
    "a LOWER HOOKkMIDDLE PIECEmUPPER HOOKyDOTTED SUBSTITUTION BRACKETzUBLE ANGLE BRACKET",
    "mRROW WITH ROUNDED HEADxPARENTHESISlQUOTATION MARKoWIGGLY FENCEtFISH TAILhVE EIGHTHS BLOCK",
    "rLOORfHALF BLACK CIRCLEgSTARiOCKfFOLDERgMEDIUM SHADEmRUNNING MANoND TELEPHONE RECEIVER",
    "xLOW PARAPHRASE BRACKETwNORMAL FACTOR SEMIDIRECT PRODUCT.RIGHT ONE EIGHTH BLOCKmQUARTER BLOCK",
    "qPEN SQUARED DOTpUTER JOINkPARENTHESISa EXTENSIONjLOWER HOOKkUPPER HOOK",
    "wRAISED OMISSION BRACKETxS-SHAPED BAG DELIMITERvEMIDIRECT PRODUCTqVEN EIGHTHS BLOCK",
    "sIDEWAYS U BRACKETqNGLE QUOTATION MARKuPEAKERa WITH ONE SOUND WAVEoTHREE SOUND WAVES",
    ".RIGHT SPEECH BUBBLEmQUARE BRACKETa EXTENSIONjLOWER CORNERmUPPER CORNERmWITH DOUBLE STROKE",
    "nQUILLfSTROKEgTICK IN BOTTOM CORNERnTOP CORNERsUNDERBAR.RIGHT SUBSTITUTION BRACKETuTACK",
    "dHIRD WHITE RIGHT POINTING INDEX.RIGHT THOUGHT BUBBLEmREE EIGHTHS BLOCKnQUARTERS BLOCK",
    "tORTOISE SHELL BRACKETvRANSPOSITION BRACKETtIANGLEa ABOVE LEFT TRIANGLE",
    "wULAR ONE QUARTER BLOCK.RIGHT VERTICAL BAR WITH QUILLnOX LINErWHITE CORNER BRACKET",
    "nURLY BRACKETnLENTICULAR BRACKETsPARENTHESISlSQUARE BRACKEToTORTOISE SHELL BRACKET",
    ".RIGHT WIGGLY FENCEn-FACING ARMENIAN ETERNITY SIGNwFISTeSVASTI SIGNa WITH DOTS",
    ".RIGHT-HANDED INTERLACED PENTAGRAM.RIGHT-POINTING ANGLE BRACKETnCURVED ANGLE BRACKET",
    "uDOUBLE ANGLE QUOTATION MARK.RIGHT-POINTING MAGNIFYING GLASSzSHADED WHITE RIGHTWARDS ARROW",
    ".RIGHT-SIDE ARC CLOCKWISE ARROWyTO-LEFT EMBEDDINGjISOLATEhMARKeOVERRIDErHAND INTERIOR PRODUCT",
    "vWARDS ARROWa ABOVE ALMOST EQUAL TOpREVERSE ALMOST EQUAL TOpTILDE OPERATOR",
    "wSHORT LEFTWARDS ARROWvTILDE OPERATORtND UPPER AND LOWER ONE EIGHTH BLOCK",
    ".RIGHTWARDS ARROW FROM BARa TO BLACK DIAMONDzOVER LEFTWARDS ARROWuTHROUGH GREATER-THAN",
    "mSUPERSETiXiO BARcLACK DIAMONDqWITH CORNER DOWNWARDSqDOTTED STEMjUBLE VERTICAL STROKE",
    "wEQUILATERAL ARROWHEADvHOOKeLARGE TRIANGLE ARROWHEADxOOPeMEDIUM TRIANGLE ARROWHEAD",
    "zNOTCHED TAILmPLUS BELOWkSMALL EQUILATERAL ARROWHEADvTRIANGLE ARROWHEADxTROKEgTAIL",
    "a WITH DOUBLE VERTICAL STROKEwVERTICAL STROKEyIP DOWNWARDSjUPWARDSlVERTICAL STROKEv-TAIL",
    "kBACK-TILTED SHADOWED WHITE ARROW.RIGHTWARDS BLACK ARROWfCIRCLED WHITE ARROW",
    "yOTTOM SHADED WHITE ARROWzCOMPRESSED ARROWqDASHED ARROWlOUBLE ARROWa FROM BARiWITH STROKE",
    "gVERTICAL STROKEv-TAILkDASH ARROWrFINGER-POST ARROWqRONT-TILTED SHADOWED WHITE ARROW",
    ".RIGHTWARDS HANDcRPOON OVER LEFTWARDS HARPOON",
    "wWITH BARB DOWN ABOVE LEFTWARDS HARPOON WITH BARB DOWN",
    ".RIGHTWARDS HARPOON WITH BARB DOWN BELOW LONG DASHpFROM BARiTO BARhWARDS",
    "jUP ABOVE LEFTWARDS HARPOON WITH BARB UP.RIGHTWARDS HARPOON WITH BARB UP ABOVE LONG DASH",
    "jRIGHTWARDS HARPOON WITH BARB DOWN.RIGHTWARDS HARPOON WITH BARB UP FROM BARiTO BARhWARDS",
    "yEAVY ARROWfCOMPRESSED ARROWwLEFT-SHADED WHITE ARROWxOPEN-HEADED ARROWrPAIRED ARROWS",
    "mUSHING HANDmQUADRUPLE ARROWpRIGHT-SHADED WHITE ARROWxOCKETgSANS-SERIF ARROWpQUARED ARROW",
    "kIGGLE ARROWoTOP SHADED WHITE ARROWvRIANGLE ARROWHEADk-HEADED ARROW",
    "a OVER LEFTWARDS TRIANGLE-HEADED ARROW.RIGHTWARDS TRIANGLE-HEADED ARROW TO BAR",
    "gWITH BOLD SHAFTkDOUBLE HORIZONTAL STROKEyHEAVY SHAFTlLONG TIP DOWNWARDSjUPWARDSqMEDIUM SHAFT",
    "mNARROW SHAFTmVERY HEAVY SHAFT.RIGHTWARDS TRIANGLE-HEADED DASHED ARROWmPAIRED ARROWS",
    ".RIGHTWARDS TRIPLE ARROWfDASH ARROWqWO HEADED ARROWn-HEADED ARROW FROM BAR",
    "iWITH DOUBLE VERTICAL STROKEwTAILa WITH DOUBLE VERTICAL STROKEwVERTICAL STROKE",
    "yRIANGLE ARROWHEADStVERTICAL STROKE.RIGHTWARDS TWO-HEADED TRIPLE DASH ARROW",
    ".RIGHTWARDS WAVE ARROWjHITE ARROWa FROM WALLjWITHIN TRIANGLE ARROWHEAD.RINGa ABOVEfBUOY",
    "eEQUAL TOiIN EQUAL TOlOPERATORiPOINTgED PLANETjING BELL",
    "kSING DIAGONAL CROSSING FALLING DIAGONALqSOUTH EAST ARROW.ROASTED SWEET POTATOsBOT FACEiCKaET",
    "eLL OF PAPERjED-UP NEWSPAPERoR COASTERhSKATEiING ON THE FLOOR LAUGHING.ROMAN AS SIGN",
    "hCENTURIAL SIGNoDENARIUS SIGNmIMIDIA SEXTULA SIGNtUPONDIUS SIGNoNUMERAL EIGHTeLEVENgFIFTY",
    "a EARLY FORMkTHOUSANDmVEa HUNDREDhTHOUSANDmOUReNINEeONEa HUNDREDa THOUSANDqTHOUSANDa C D",
    "qREVERSED ONE HUNDREDuSEVENeIXa LATE FORMnTENa THOUSANDlHREEeWELVEeOlQUINARIUS SIGN",
    "oSEMUNCIA SIGNlSTERTIUS SIGNnXTANS SIGNiULA SIGNlILIQUA SIGNmUNCIA SIGNoOSTERfSEaTTE",
    "fTATED CAPITAL QjFLORAL HEART BULLETtHEAVY BLACK HEART BULLETyLIGHT FOUR POINTED BLACK CUSP",
    ".ROTATED WHITE FOUR POINTED CUSP.ROUND PUSHPINhTARGEThED SYMBOL FOR CAIdFUcLUcSHOUcUANGXIiXI",
    "tWBOATgUBLE SIGNiGBY FOOTBALLmLE-DELAYEDkMI DIGIT EIGHTfFIVEdOUReNINEeONEdSEVENeIXdTHREEeWO",
    "jFRACTION ONE HALFeQUARTERhTHIRDjTWO THIRDStNUMBER EIGHT HUNDREDiYgFIFTYdVE HUNDREDlORTY",
    "dUR HUNDREDmNINE HUNDREDiTYgONE HUNDREDlSEVEN HUNDREDiTYgIX HUNDREDiTYfTENcHIRTYeREE HUNDRED",
    "mWENTYeO HUNDREDvNIC ARLAUG SYMBOLnBELGTHOR SYMBOLpCROSS PUNCTUATIONrLETTER AC AdESC",
    "dLGIZ EOLHXkNSUZ AhBERKANAN BEORC BJARKAN ByCaALCdEALCdNcWEORTHhDaAGAZ DAEG DlOTTED-LbNbPiE",
    "aARcHWAZ EH EjNGcTHdFEHU FEOH FE FnRANKS CASKET ACbESCeEHcIScOSqGaARcEBO GYFU GjRdHAEGL H",
    "fGLAZ HiICELANDIC-YRlNGaWAZfORcSAZ IS ISS ImWAZ EOHiJERAN JhKaAUN KcAfLAUKAZ LAGU LOGR L",
    "rONG-BRANCH-AR AEfHAGALL HiMADR MgOSS OfYRoMANNAZ MAN MmNAUDIZ NYD NAUD NrOaEbNbObPEN-PfS O",
    "dTHALAN ETHEL OpPERTHO PEORTH PpQbRAIDO RAD REID RqSHaORT-TWIG-AR AeBJARKAN BjHAGALL HiMADR M",
    "gNAUD NgOSS OfSOL SfTYR TfYRmIGEL LONG-BRANCH-SOL SwOWILO ShTANeTHURISAZ THURS THORN",
    "tIWAZ TIR TYR TpURUZ UR UjVbWaUNJO WYNN WmXbYaRcZiMULTIPLE PUNCTUATIONuSINGLE PUNCTUATION",
    "sTVIMADUR SYMBOLsNERcING SHIRT WITH SASHvPEE SIGNiSSIAN ASTROLOGICAL SYMBOL BINOVILEiNOVILE",
    "gQUINTILEiSENTAGONiTREDECILEjVIGINTILE.S IN TRIANGLEmAFETY PINdVESTjGITTARIUSjILBOAT",
    "gKE BOTTLE AND CUPrLT SHAKERhIREeUTING FACElMARITAN ABBREVIATION MARKrLETTER ALAFeBAAcIT",
    "dDALATfFIcGAMANfINbTbYcKAAFeLABATfMIMdNUNdQUFdRISHeSHANdINGAAThTAAFdITcSAADIYhYUTdZEN",
    "kMARK DAGESHgEPENTHETIC YUToINa-ALAFhNEQUDAAhOCCLUSIONnODIFIER LETTER EPENTHETIC YUToI",
    "bSHORT AxPUNCTUATION AFSAAQfNGEDdNAAUfRKAANUgTMAAUgBAUdMELODIC QITSAnNEQUDAAhQITSAfSHIYYAALAA",
    "jOF MASHFAATmTURUeZAEFdIQAArVOWEL SIGN AaAcEbIbLONG AaAcEbIbUgOaVERLONG AaAlSHORT AgUKUNfU",
    "uNDWICHfS-SERIF HEAVY DOUBLE COMMA QUOTATION MARK ORNAMENT",
    ".SANS-SERIF HEAVY DOUBLE TURNED COMMA QUOTATION MARK ORNAMENT",
    ".SANS-SERIF HEAVY LOW DOUBLE COMMA QUOTATION MARK ORNAMENT.SANS-SERIF INTERROBANG ORNAMENT",
    ".SARIcTELLITEa ANTENNAoURNeURASHTRA CONSONANT SIGN HAARUuDANDAeIGIT EIGHTfFIVEdOUReNINEeONE",
    "dSEVENeIXdTHREEeWOdZEROjOUBLE DANDAmLETTER AaAbIbUcBAbHAdCAbHAdDAbDAbHAdHAdEaEcGAbHAdHAcIaI",
    "cJAbHAdKAbHAdLAbLAdMAcNAbGAcNAcYAdOaOcPAbHAdRAcSAbHAcSAdTAbHAcTAbHAeUaUcVAbOCALIC LaLcRaRkYA",
    "jSIGN ANUSVARAiCANDRABINDUlVIRAMAeSARGAmVOWEL SIGN AAbIbUcEaEcIaIcOaOcUaUcVOCALIC LaLcRaR",
    ".SAUROPODgXOPHONEiCALESdRFdHOOLa SATCHELmOOTEReRPIONcUSgREENcWDRIVERiIPT CAPITAL BbEbFbHbIbL",
    "bMbPbRjLIGATURE ET ORNAMENTuSMALL EbGbLbOlOLLdUPLEgEALbTcCOND PLACE MEDALpTION SIGNiOReDNA",
    "dE-NO-EVIL MONKEYpDLINGgGMENTaED DIGIT EIGHTfFIVEdOUReNINEeONEdSEVENeIXdTHREEeWOdZEROsLFIE",
    "eMICOLONfDIRECT PRODUCT WITH BOTTOM CLOSED.SEMISEXTILEjPARATED SYMBOL",
    "oRIOUS FACE WITH SYMBOLS COVERING MOUTH.SERVICE MARKkSAME DOThQUIQUADRATEmT MINUShWING NEEDLE",
    "lXTILEgHADOWED WHITE CIRCLEgLATIN CROSSlSTARqKING FACEjLLOW PAN OF FOODqMROCK",
    "fRADA ABBREVIATION SIGNrCONTINUATION SIGNrDANDAeIGIT EIGHTfFIVEdOUReNINEeONEdSEVENeIXdTHREE",
    "eWOdZEROjOUBLE DANDAmEKAMdXTRA SHORT VOWEL MARKwHEADSTROKEkLETTER AaAbIbUcBAbHAdCAbHAdDAbDA",
    "bHAdHAdEbGAbHAdHAcIaIcJAbHAdKAbHAdLAbLAdMAcNAbGAcNAcYAdObPAbHAdRAcSAbHAcSAdTAbHAcTAbHAeUaUcVA",
    "bOCALIC LaLcRaRkYAjOMcSANDHI MARKkECTION MARK-1b2mPARATORiIGN ANUSVARAhVAGRAHAiCANDRABINDU",
    "lINVERTED CANDRABINDUuJIHVAMULIYAlNUKTAfSIDDHAMhUPADHMANIYAlVIRAMAeSARGAlUTRA MARK",
    "kVOWEL MODIFIER MARKnSIGN AAbIbUcEbIaIcObPRISHTHAMATRA EpUaUcVOCALIC LaLcRaRzKcVED ICE",
    "gIAN LETTER ADOcGEcHbIRcREbRAYeSHcWEdBIBdCHURCHgDEADeEARbTcGGcRRdFEEdGAGdHA-HAeUNGeIANcCEcF",
    "cJUDGEfKICKeLOLLeMEASUREgIMEeNUNdOAKcILcNbOZEdRbUTdPEEPeROAReSObUREeTHEYcIGHeOTdUPcVOWdWOEbOL",
    "eYEAbWdZOOqEEPdIELDdNTO SHRINEkPcOCKED FACE WITH EXPLODING HEAD.SHOOTING STARkPPING BAGS",
    "eTROLLEYnRT BACKSLANTED SOUTH ARROWwENT ARROW POINTING DOWNWARDS THEN NORTH EAST",
    ".SHORT DOWN TACKa WITH OVERBARwLEFT TACKjRIGHTWARDS ARROW ABOVE LEFTWARDS ARROW",
    ".SHORT SLANTED NORTH ARROWtUP TACKa ABOVE SHORT DOWN TACKvWITH UNDERBARwCAKE",
    "eHAND FORMAT CONTINUING OVERLAPsDOWN STEPjLETTER OVERLAPoUP STEPtSdULDERED OPEN BOXqWEReRIMP",
    "dUGdUFFLE PRODUCToIDDHAM DANDAeOUBLE DANDAmEND OF TEXT MARKqLETTER AaAbIbLTERNATE UkUcBAbHA",
    "dCAbHAdDAbDAbHAdHAdEbGAbHAdHAcIaIcJAbHAdKAbHAdLAcMAcNAbGAcNAcYAdObPAbHAdRAcSAbHAcSAdTAbHA",
    "bREE-CIRCLE ALTERNATE IxTAbHAdWO-CIRCLE ALTERNATE IaIxUaUcVAbOCALIC LaLcRaRkYA",
    "jREPETITION MARK-1b2b3rSECTION MARK DOUBLE RINGa WITH RAYSvWITH CIRCLES AND FOUR ENCLOSURES",
    "pRAYSeTWO ENCLOSURES.SIDDHAM SECTION MARK WITH DOUBLE CRESCENTSqQUADRUPLE CRESCENTS",
    "tRAYS AND DOTTED CRESCENTSjDOUBLE CRESCENTSqTRIPLE CRESCENTS",
    ".SIDDHAM SECTION MARK WITH SEPTUPLE CRESCENTSsTRIDENT AND DOTTED CRESCENTSqU-SHAPED ORNAMENTS",
    ".SIDDHAM SECTION MARK WITH TRIPLE CRESCENTS.SIDDHAM SEPARATOR BARdDOTmIGN ANUSVARA",
    "iCANDRABINDUlNUKTAfSIDDHAMhVIRAMAeSARGAmVOWEL SIGN AAbIbLTERNATE UaUlUcEbIaIcObUaUcVOCALIC R",
    "aR.SIDEWAYS BLACK DOWN POINTING INDEXtLEFT POINTING INDEXtRIGHT POINTING INDEX",
    "uUP POINTING INDEXxWHITE DOWN POINTING INDEXtLEFT POINTING INDEXtRIGHT POINTING INDEX",
    "uUP POINTING INDEX.SIGN OF THE HORNSnWRITING AIR BLOW SMALL ROTATIONSqING OUT",
    "lSUCK SMALL ROTATIONSqING INoBREATH EXHALEgINHALElUSH BETWEENhMULTIPLEiSINGLEmCHEEKS NEUTRAL",
    "hPUFFEDgSUCKEDmOLONdMMAfDREAMY EYEBROWS DOWN NEUTRALmNEUTRAL DOWNeUPkUP NEUTRAL",
    "zYNAMIC ARROWHEAD LARGEfSMALLpEVERY OTHER TIMEqFASTeGRADUALhRELAXEDhSIMULTANEOUSa ALTERNATING",
    "xLOWeTENSEnEARSdXCITEMENTjYE BLINK MULTIPLEiSINGLEmWINKfBROWS STRAIGHT DOWNeNEUTRALhUP",
    "rGAZE-FLOORPLANE CURVEDgSTRAIGHTa ALTERNATINGlDOUBLE.SIGNWRITING EYEGAZE-WALLPLANE CIRCLING",
    "hURVEDgSTRAIGHTa ALTERNATINGlDOUBLE.SIGNWRITING EYELASHES DOWNeFLUTTERINGkUPjS CLOSED",
    "gHALF CLOSEDgOPENjOPENeSQUEEZEDiWIDE OPENfNING MOVEMENT",
    "wFACE DIRECTION POSITION NOSE FORWARD TILTINGpUP OR DOWNa TILTING.SIGNWRITING FILL MODIFIER-2",
    "b3b4b5b6nNGERfLICK LARGE MULTIPLEiSINGLEmSEQUENTIALjMALL MULTIPLEiSINGLE",
    "qOORPLANE SHOULDER HIP MOVE.SIGNWRITING FOREHEAD CONTACThNEUTRALhWRINKLEDqULL STOP",
    "jGRASP BETWEENhMULTIPLEiSINGLEmHAIRcND-ANGLEa INDEXa MIDDLE LITTLEgRINGlRING LITTLEa OUT",
    "pTHUMBa INcOUTpLITTLE INDEXa THUMB INDEX THUMBa OUT.SIGNWRITING HAND-ANGLE LITTLE UP",
    "jMIDDLE RING LITTLEa INcOUTwRING DOWN MIDDLE THUMB INDEX CROSS",
    ".SIGNWRITING HAND-ANGLE RING LITTLErCIRCLEa INDEXa BENTeHINGEfMIDDLEa CROSS LITTLEhEDhLITTLE",
    "gRINGeTHUMBmRING LITTLErLITTLE INDEXfUPjMIDDLE RING LITTLEa BENTqUPjRING LITTLErLAW",
    "a FOUR FINGERS CONJOINEDwINDEX THUMB CURVE THUMB INSIDE",
    ".SIGNWRITING HAND-CLAW MIDDLE RING LITTLE CONJOINEDa SIDE.SIGNWRITING HAND-CLAW NO THUMB",
    "iTHUMB FORWARDhSIDEoUPa FIVE FINGERS SPREADa OPENyINDEXa RING LITTLElTHUMBa OPEN",
    "qMIDDLE RING LITTLEsNO THUMBiOPENa NO THUMBiTHUMB FORWARDhSIDEpTHUMB FORWARDhSIDEmRLICUE",
    "a INDEX RING LITTLE ONuMIDDLE RING LITTLE ONvOPENnFISTa FOUR FINGERS CONJOINED BENT",
    ".SIGNWRITING HAND-FIST HEELeINDEXa BENTa OVER MIDDLEqCUPPEDgHINGEDa LOWdMIDDLE UPa THUMB SIDE",
    ".SIGNWRITING HAND-FIST INDEX MIDDLEa BENTa THUMB STRAIGHTtCONJOINEDa CUPPEDa THUMB FORWARD",
    "uHINGEDa THUMB SIDErINDEX BENTkMIDDLE BENTlTHUMB FORWARDhSIDEa BENTeCONJOINED",
    ".SIGNWRITING HAND-FIST INDEX MIDDLE CROSS LITTLEhEDa THUMB SIDEsHINGEDa SPREAD THUMB SIDE",
    "yLITTLEgRAISED KNUCKLESoINGa BENTeCONJOINEDoSTRAIGHT THUMB BENTtTHUMBa ANGLEDa OUTkBENT",
    "eCIRCLEDgONJOINED HINGEDpUPPEDgHINGEDfOOKEDmUP SPREAD THUMB FORWARD",
    ".SIGNWRITING HAND-FIST INDEX RAISED KNUCKLEnING LITTLElTHUMB ANGLED IN MIDDLE UP",
    "mOUT MIDDLE UPuCIRCLEaD MIDDLE UPqUPPED MIDDLE UPoRLICUEfVE THUMB INSIDEgUNDER",
    "rFORWARD INDEX BENTeSTRAIGHTwHOOKaED MIDDLE HINGEDgUPqSIDEa BOTH BENTjINDEX BENTeHINGE",
    "lTHUMB BENTeCONJOINEDjDIAGONALzUP MIDDLE HINGEDa THUMB CONJOINEDjSIDE",
    ".SIGNWRITING HAND-FIST LITTLE BENTeDOWNa OTHERS CIRCLEDoRIPPLE CURVEDgSTRAIGHTuINDEXa THUMB",
    "lRAISED KNUCKLEoTHUMBeOUCHES THUMBnUPjMIDDLE BENT OVER INDEXpDOWNeLITTLEgRAISED KNUCKLE",
    "nING LITTLElTHUMB ANGLED INDEX UPiOUT INDEX CROSSEDhUPtCIRCLED INDEX HINGEDgUPpUPPED INDEX UP",
    "pHOOKED INDEX UPpLITTLEmUPa THUMB SIDEuRING DOWNeINDEXfLITTLEgMIDDLEa CONJOINED",
    "jRAISED KNUCKLESwRAISED KNUCKLEoTHUMBfUPhTHUMBa BETWEEN INDEX MIDDLEa STRAIGHTvMIDDLE RING",
    "lRING LITTLEtFORWARDhHEELeOVER FOUR RAISED KNUCKLESuTWO FINGERSqSIDE BENTeCONJOINEDjDIAGONAL",
    "nUNDER FOUR FINGERSmINDEX BENTkLITTLE UPjTHREE FINGERSmWO FINGERS.SIGNWRITING HAND-FLAT",
    "a BETWEEN PALM FACINGSuFIVE FINGERS SPREADa BENTeFOUR BENTjHINGEDa NO THUMBiTHUMB SIDE",
    "rTHUMB FORWARD.SIGNWRITING HAND-FLAT FOUR FINGERSa BENTeCONJOINEDa SPLITpHINGEDtHEEL",
    "a FIVE FINGERS SPREADa BENTeFOUR BENT.SIGNWRITING HAND-FLAT HEEL THUMB SIDEpSPLIT CENTRE",
    "a THUMB SIDEa BENTwINDEX THUMB SIDEqLITTLEmTHUMB BENTeFORWARDhSIDEpHINGE",
    "a FIVE FINGERS SPREAD OPENxOUR FINGERS CONJOINEDwINDEXa HINGEDgMIDDLE LITTLEgRINGa CONJOINED",
    "vRING LITTLElTHUMBa LARGEfOPENeSIDEdMALLrLITTLEa INDEXa THUMBlTHUMBmMIDDLEa RING LITTLE",
    "sNO THUMBiOPENa NO THUMBiTHUMB FORWARDhSIDEpRINGa DOWN INDEX THUMB HOOK MIDDLE",
    ".SIGNWRITING HAND-HINGE SMALLfTHUMB BETWEEN MIDDLE RINGtSIDEa TOUCHING INDEX",
    ".SIGNWRITING HAND-HOOKa CURLICUEiINDEX RING LITTLE INcOUTdUNDERxMIDDLE RING LITTLE CONJOINED",
    "a INcOUTzTHUMBmRING THUMBpOVALa FIVE FINGERS SPREADtINDEXfLITTLE UPjNO THUMBiRING LITTLE",
    "lTHUMB FORWARDhSIDEtEADa MOVEMENT CIRCLEh-FLOORPLANE CURVEfSTRAIGHTtWALLPLANE CURVEfSTRAIGHT",
    "iTILTxRIMiLIMB COMBINATIONlLENGTH-1b2b3b4b5b6b7lP LOWER OVER UPPERqUPPER OVER LOWER",
    "rS PRESSED TOGETHERuOCATION DEPTHfHEAD NECKhIGHTgLIMBS DIGITSmTORSOfWIDTHg-FLOORPLANE SPACE",
    "qWALLPLANE SPACEyMOUTH CLOSED CONTACThFORWARDhNEUTRALnORNERShFROWNa OPENeWRINKLEDoKISS",
    "a FORWARDhWRINKLEDnOPEN CIRCLEgFORWARDhOVALa WRINKLEDiYAWNjRECTANGLEa WRINKLEDiYAWNoWRINKLED",
    "nSMILEa OPENeWRINKLEDoTENSEa FORWARDhSUCKEDmWRINKLES DOUBLEgSINGLEtVEMENT-DIAGONAL AWAY LARGE",
    "aSThMEDIUMgSMALLkBETWEEN AWAY LARGEaSThMEDIUMgSMALLkTOWARDS LARGEaSThMEDIUMgSMALL",
    "vTOWARDS LARGEaSThMEDIUMgSMALLwFLOORPLANE ARM CIRCLE HITTING WALL LARGE DOUBLEgSINGLE",
    "mMEDIUM DOUBLEgSINGLEnSMALL DOUBLEgSINGLE.SIGNWRITING MOVEMENT-FLOORPLANE BENDdOX LARGE",
    "fMEDIUMgSMALLjCHECKeORNER LARGEfMEDIUMgSMALLlROSSeURVE COMBINEDiHITTING CEILING LARGEfSMALL",
    "nFLOOR LARGEfSMALLtLARGEaSThMEDIUMgSMALLlDOUBLE ALTERNATINGa WRIST FLEXwSTRAIGHTiWRIST FLEX",
    "rFINGER CIRCLES HITTING WALL DOUBLEgSINGLE.SIGNWRITING MOVEMENT-FLOORPLANE FINGER CONTACT",
    "oHUMP HITTING CEILING LARGE DOUBLEgTRIPLEmSMALL DOUBLEgTRIPLEuFLOOR LARGE DOUBLEmSMALL DOUBLE",
    "mTRIPLE LARGE TRIPLEmSMALL TRIPLE.SIGNWRITING MOVEMENT-FLOORPLANE HUMP SMALLkJAW",
    "dLOOP HITTING CEILING LARGE DOUBLEgSINGLEmSMALL DOUBLEgSINGLEuFLOOR LARGE DOUBLEgSINGLE",
    "mSMALL DOUBLEgSINGLE.SIGNWRITING MOVEMENT-FLOORPLANE LOOP SMALLkPEAKS LARGEfMEDIUMgSMALL",
    "lSHAKING PARALLELpINGLE STRAIGHT LARGEaSThMEDIUMgSMALLoWRIST FLEXrTRIPLE ALTERNATING MOVEMENT",
    "iWRIST FLEXwSTRAIGHT MOVEMENTrWRIST FLEXrWAVE HITTING CEILING LARGEfSMALLnFLOOR LARGEfSMALL",
    "tLARGEfSMALLeNAKEjRIST CIRCLE HITTING WALL DOUBLEgSINGLE",
    ".SIGNWRITING MOVEMENT-FLOORPLANE ZIGZAG LARGEfMEDIUMgSMALLxHINGE DOWN SEQUENTIAL",
    "pSIDE TO SIDE SCISSORSvUP DOWN ALTERNATING LARGEfSMALLrLARGEfSMALLkSEQUENTIAL",
    "tWALLPLANE ARM CIRCLE MEDIUM DOUBLEgSINGLEnSMALL DOUBLEgSINGLExBEND LARGEfMEDIUMgSMALL",
    "jOX LARGEfMEDIUMgSMALLjCHECK LARGEfMEDIUMgSMALLkORNER LARGEfMEDIUMgROTATIONiSMALLlROSS",
    "eURVE HALF-CIRCLE LARGEaSThMEDIUMgSMALLqITTING CHESTfFRONT WALLsQUARTER LARGEaSThMEDIUMgSMALL",
    "nTHEN STRAIGHTlREE-QUARTER CIRCLE MEDIUMgSMALL",
    ".SIGNWRITING MOVEMENT-WALLPLANE CURVED CROSS MEDIUMgSMALLsDOUBLE ALTERNATINGa WRIST FLEX",
    "wSTRAIGHTiWRIST FLEXrFINGER CIRCLES DOUBLEgSINGLEnONTACToHUMP HITTING CHESTfFRONT WALLsLARGE",
    "fMEDIUMgSMALLkJAWdLOOP HITTING CHESTfFRONT WALLsLARGEfMEDIUMgSMALLa DOUBLErPEAKS LARGEfMEDIUM",
    "gSMALLlSHAKINGgINGLE STRAIGHT LARGEaSThMEDIUMgSMALLoWRIST FLEXrTRIPLE ALTERNATINGa WRIST FLEX",
    "wSTRAIGHT MOVEMENTrWRIST FLEXrWAVE CURVE DOUBLE LARGEfMEDIUMgSMALLmTRIPLE LARGEfMEDIUMgSMALL",
    "sDIAGONAL PATH LARGEfMEDIUMgSMALLtHITTING CHESTfFRONT WALLwRIST CIRCLE FRONT DOUBLEgSINGLE",
    "zZIGZAG LARGEfMEDIUMgSMALL.SIGNWRITING NECKdOSE CONTACThNEUTRALhWIGGLESgRINKLESnPARENTHESIS",
    "lROTATION MODIFIER-10b1b2b3b4b5b6c2b3b4b5b6b7b8b9l-FLOORPLANE ALTERNATINGa HITTING CEILING",
    "hFLOORzDOUBLEa HITTING CEILINGhFLOORuSINGLEa HITTING CEILINGhFLOOR",
    ".SIGNWRITING ROTATION-WALLPLANE ALTERNATEbING HITTING CHESTfFRONT WALL",
    ".SIGNWRITING ROTATION-WALLPLANE DOUBLEa HITTING CHESTfFRONT WALLzSINGLEa HITTING CHEST",
    "fFRONT WALL.SIGNWRITING RUB BETWEENhMULTIPLEiSINGLEkSEMICOLONiHOULDER HIP POSITIONSjSPINE",
    "jTILTING FROM WAIST.SIGNWRITING SQUEEZE FLICK ALTERNATINGrLARGE MULTIPLEiSINGLEmSEQUENTIAL",
    "jMALL MULTIPLEiSINGLEtTRIKE BETWEENhMULTIPLEiSINGLEmURFACE BETWEENhSYMBOLSpTEETHa BITE LIPS",
    "jMOVEMENTiON LIPSa MOVEMENTnTONGUEa MOVEMENTwNSE CHEEKS HIGHeLOWdMIDDLE",
    "sONGUE CENTRE INSIDE MOUTHmSTICKING OUTtINSIDE MOUTH RELAXEDuLICKING LIPSmMOVES AGAINST CHEEK",
    "tSTICKING OUT FARqTIP BETWEEN LIPSmTOUCHING INSIDE MOUTH",
    ".SIGNWRITING TORSO-FLOORPLANE TWISTINGtWALLPLANE CURVED BENDlSTRAIGHT STRETCH",
    ".SIGNWRITING TOUCH BETWEENhMULTIPLEiSINGLElRAVEL-FLOORPLANE ROTATION-FLOORPLANE ALTERNATING",
    "lDOUBLEgSINGLErWALLPLANE ALTERNATINGlDOUBLEgSINGLEzSHAKINGsWALLPLANE ARM SPIRAL DOUBLEgSINGLE",
    "gTRIPLErROTATION-FLOORPLANE ALTERNATINGlDOUBLEgSINGLErWALLPLANE ALTERNATINGlDOUBLEgSINGLE",
    "zSHAKINGyUPPER BODY TILTING FROM HIP JOINTS.SIGNWRITING WALLPLANE SHOULDER HIP MOVE",
    ".SILHOUETTE OF JAPANrMILAR ABOVE GREATER-THAN ABOVE EQUALS SIGN",
    ".SIMILAR ABOVE LESS-THAN ABOVE EQUALS SIGN.SIMILAR MINUS SIMILARnOR GREATER-THANmLESS-THAN",
    "sNE WAVEgGLE HIGH-REVERSED-9 QUOTATION MARK.SINGLE LEFT-POINTING ANGLE QUOTATION MARK",
    ".SINGLE LOW-9 QUOTATION MARKuRIGHT-POINTING ANGLE QUOTATION MARK.SINHALA ARCHAIC DIGIT EIGHT",
    "fFIVEdOUReNINEeONEdSEVENeIXdTHREEeWOjNUMBER EIGHTYgFIFTYeORTYfNINETYgONE HUNDREDhTHOUSAND",
    "mSEVENTYgIXTYfTENcHIRTYfWENTYvLETTER AAYANNAgEEYANNAgYANNAgIYANNAgLPAPRAANA BAYANNAhCAYANNA",
    "hDAYANNAgDAYANNAiGAYANNAhJAYANNAhKAYANNAhPAYANNAhTAYANNAgTAYANNAsMBA BAYANNAlUYANNAgYANNA",
    "gDANTAJA LAYANNAhNAYANNAhSAYANNApEEYANNAgYANNAgFAYANNAhHAYANNAhIIYANNAgLUUYANNAgYANNA",
    "hRUUYANNAgYANNAhYANNAgKANTAJA NAASIKYAYAsMAHAAPRAANA BAYANNAhCAYANNAhDAYANNAgDAYANNAiGAYANNA",
    "hJAYANNAhKAYANNAhPAYANNAhTAYANNAgTAYANNAsYANNAgUURDHAJA LAYANNAhNAYANNAhSAYANNArOOYANNAgYANNA",
    "gRAYANNAhSANYAKA DAYANNAgDAYANNAiGAYANNAhJAYANNApTAALUJA NAASIKYAYAkSANYOOGA NAAKSIKYAYA",
    "sYANNApUUYANNAgYANNAgVAYANNAhYAYANNAnITH DIGIT EIGHTfFIVEdOUReNINEeONEdSEVENeIXdTHREEeWOdZERO",
    "pPUNCTUATION KUNDDALIYAwSIGN AL-LAKUNAiNUSVARAYAkCANDRABINDUlVISARGAYAoVOWEL SIGN AELA-PILLA",
    "kDIGA AEDA-PILLAkGAETTA-PILLAkYANUKITTAlIS-PILLAiKOMBUVAhPAA-PILLAoGAETTA-PILLAkYANUKITTA",
    "lKETTI AEDA-PILLAkIS-PILLAiPAA-PILLAoOMBU DEKAfVAa HAA AELA-PILLAkDIGA AELA-PILLApGAYANUKITTA",
    ".SIX PETALLED BLACK AND WHITE FLORETTE.SIX POINTED BLACK STARkPINWHEEL STAR",
    "nSTAR WITH MIDDLE DOT.SIX-PER-EM SPACEnTEEN POINTED ASTERISKxKATEBOARDiI AND SKI BOOTnERdULL",
    "a AND CROSSBONESrNKeLANTED EQUAL TO OR GREATER-THANa WITH DOT INSIDE",
    ".SLANTED EQUAL TO OR LESS-THANa WITH DOT INSIDE.SLANTED NORTH ARROW WITH HOOKED HEAD",
    "jRIZONTAL TAIL.SLAVONIC ASTERISKpEDbEPING ACCOMMODATIONnFACEeSYMBOLkY FACEiUTH OR SPY",
    "lICE OF PIZZAlGHTLY FROWNING FACEnSMILING FACEtOPEbING LARGE ANDdORnT MACHINEiHeMALL AIRPLANE",
    "hMPERSANDiSTERISKiBLUE DIAMONDmCOLONdMMAbERCIAL ATlNTAINS AS MEMBERjWITH OVERBAR",
    "hVERTICAL BAR AT END OF HORIZONTAL STROKE.SMALL DOLLAR SIGNlELEMENT OFa WITH OVERBAR",
    "hVERTICAL BAR AT END OF HORIZONTAL STROKE.SMALL EM DASHgQUALS SIGNkXCLAMATION MARKqFULL STOP",
    "jGREATER-THAN SIGNrHYPHEN-MINUSmIDEOGRAPHIC COMMArLEFT CURLY BRACKETnPARENTHESIS",
    "lTORTOISE SHELL BRACKETzSS-THAN SIGNoNUMBER SIGNlORANGE DIAMONDoPERCENT SIGNlLUS SIGN",
    "jQUESTION MARKnREVERSE SOLIDUSoIGHT CURLY BRACKETnPARENTHESISlTORTOISE SHELL BRACKET",
    ".SMALL ROMAN NUMERAL EIGHTeLEVENgFIFTYdVEa HUNDREDlOUReNINEeONEa HUNDREDhTHOUSANDmSEVENeIX",
    "dTENcHREEeWELVEeOrSEMICOLONjTILDEeWO DOTS OVER ONE DOT PUNCTUATION.SMALL VEE WITH UNDERBAR",
    "sER THANa OR EQUAL TOvSH PRODUCTlILEbING CAT FACE WITH HEART-SHAPED EYESrOPEN MOUTH",
    "yFACE WITH HALOdEART-SHAPED EYESqORNSfOPEN MOUTHa AND COLD SWEATkSMILING EYES",
    "mTIGHTLY-CLOSED EYES.SMILING FACE WITH SMILING EYESa AND HAND COVERING MOUTHtTHREE HEARTS",
    ".SMILING FACE WITH SUNGLASSESkTEARtRKING FACElOKING SYMBOLnNAILcKEdEEZING FACE",
    "lOW CAPPED MOUNTAINqBOARDERhFLAKEfMANa WITHOUT SNOWtOCCER BALLiKSdFT HYPHENgICE CREAM",
    "jSHELL FLOPPY DISKsBALLeWARE-FUNCTION SYMBOLwGDIAN COMBINING CURVE ABOVEfBELOWlDOT ABOVE",
    "fBELOWjHOOK ABOVEfBELOWkLONG HOOK BELOWpRESH BELOWkSTROKE BELOWmTWO DOTS ABOVEfBELOW",
    "yINDEPENDENT SHINqLETTER ALEPHeYINeBETHeFETHeGIMELfHEaTHeKAPHeLAMEDHfESHeMEMdNUNdPEcRESH-AYIN",
    "jSADHEdMEKHfHINeTAWdWAWdYODHeZAYINmNUMBER ONEa HUNDREDlTENcWENTYnPUNCTUATION CIRCLE WITH DOT",
    "pHALF CIRCLE WITH DOTuTWO CIRCLES WITH DOTSrVERTICAL BARSa WITH DOTS",
    ".SOLID QUILT SQUARE ORNAMENTa IN BLACK SQUARE.SOLIDUSa WITH OVERBARsM SIGN",
    "gON WITH RIGHTWARDS ARROW ABOVE.SORA SOMPENG DIGIT EIGHTfFIVEdOUReNINEeONEdSEVENeIXdTHREEeWO",
    "dZEROkLETTER AHcBAHdCAHdDAHdEEHcHcGAHdHAHdIHcJAHdKAHdLAHdMAEbHdNAHcGAHdYAHeOHcPAHdRAHdSAHdTAH",
    "dUHcVAHdYAHvUND RECORDING COPYRIGHTwTH EAST ARROWa AND SOUTH WEST ARROW",
    "uCROSSING NORTH EAST ARROWzTO CORNERjWITH HOOKpBLACK ARROWlDOUBLE ARROWmPOINTING BUDdLEAF",
    "eVINE LEAFsSANS-SERIF ARROWqTRIANGLE-HEADED ARROWa TO BAR.SOUTH EAST WHITE ARROWqWEST ARROW",
    "a AND NORTH WEST ARROWuWITH HOOKpBLACK ARROWlDOUBLE ARROWmPOINTING BUDdLEAFeVINE LEAF",
    "sSANS-SERIF ARROWqTRIANGLE-HEADED ARROWa TO BAR.SOUTH WEST WHITE ARROW",
    "uYOMBO CLUSTER-INITIAL LETTER LAcRAcSAbHA.SOYOMBO FINAL CONSONANT SIGN -AcBbDbGbKbLbMbNaGcRbS",
    "aHxGEMINATION MARKpHEAD MARK WITH MOON AND SUNa AND FLAMEfTRIPLE FLAME.SOYOMBO LETTER -AcAbBA",
    "bHAdCAbHAdDAbDAbHAdHAcZAdGAbHAdHAcJAbHAdKAbHAcSSAeLAcMAcNAbGAcNAcYAdPAbHAdRAcSAbHAcSAdTAbHA",
    "cSAbHAdTAbHAeVAcYAcZAbHAkMARK DOUBLE SHADlPLUTAfSHADeTSHEGkSIGN ANUSVARAiJIHVAMULIYA",
    "lUPADHMANIYAlVISARGAlUBJOINERjTERMINAL MARK-1b2pVOWEL LENGTH MARKlSIGN AIbUcEbIbOaEcUaE",
    "cVOCALIC LbR.SPACEcGHETTIgRKLEaScING HEARTnEAK-NO-EVIL MONKEYpERa WITH CANCELLATION STROKE",
    "tONE SOUND WAVEoTHREE SOUND WAVESzING HEAD IN SILHOUETTEyECH BALLOONkDBOATgSMILO SIGN",
    "lHERICAL ANGLEa OPENING LEFTeUPyIDERa WEBhRAL CALENDAR PADmNOTE PADiSHELL",
    "kLASHING SWEAT SYMBOLuONGEdOL OF THREADlNcRTS MEDALjUTING WHALEnQUARE A OVER MhARUdMbNPEA",
    "ePAATOfRUHUAfUcBAARERUfRcEETAeIRUdORUTOfQbUSSYERUiC OVER KGiALbPcCbDbMa CUBEDfSQUAREDjO",
    "aRPORATIONkUPdDAaASUeBbESIdJbLbMa CUBEDfSQUAREDjORUeEEKAAeRA NAME HEISEIgMEIZIfREIWAfSYOUWA",
    "gTAISYOUoGcSUKUUDOhVcFMbOOTcUR CORNERSmGALbNMAdRONeBbHZcIGAcNIIdRUDAAgPAcURAMUaTONiYcHAaITU",
    "eEKUTAARUhRUTUfGbIRAGANA HOKAmONbONbRUePaAcUARADDOgIITOeRANeZcIMAGE OFa OR EQUAL TO",
    "iNOT EQUAL TOxNaINGUeTIdUcK OHMeAaIRIdRATTOeORIIgBbCALdEESUeGbHZcIROaGURAMUgMEETORUhWATTOiKbL",
    "bMa CAPITALgUBEDfSQUAREDjOOPOdRUNAfPAcTbUROONEeUZEIROiVbWbYURIIgLEFT OPEN BOX OPERATORvMbNbOG",
    "bZENGEgXcM CUBEDfOHMcVER Sa SQUAREDoSQUAREDiAaHHAdIKUROeRUdNSYONfRUKUfBa SMALLhEETORUfGAaTON",
    "gGbHZcIKURONfLbRIaBAARUiLbMa CUBEDfSQUAREDjOLcPAcSbU AbFbGbLbMbSbVbWdVa MEGAgWa MEGAhNAaNOdF",
    "bMbOTTOeSbVbWcONSUdOMUdRIGINAL OFa OR EQUAL TOiNOT EQUAL TO.SQUARE OVcPAa AMPSfASENTOfTUeC",
    "bEEZIdNIHIdSUdSOdFbHbIASUTORUhKObURUfMbOINTOeNDOdSITION INDICATORrPMcRbSbVbWcRADa OVER S",
    "a SQUAREDrEMUcNTOGENhIGHT OPEN BOX OPERATORvRAcTTORUgOOTdUPIIdUBURUhSAIKURUfNTIIMUhENTIbO",
    "eIRINGUgRbVcTARGETfHZcONdUONdV OVER MiWATTOeBbITH BOTTOM HALF BLACKrCONTOURED OUTLINE",
    "rDIAGONAL CROSSHATCH FILLyHORIZONTAL FILLpLEFT HALF BLACKoOWER LEFT DIAGONAL HALF BLACK",
    "yRIGHT DIAGONAL HALF BLACK.SQUARE WITH ORTHOGONAL CROSSHATCH FILL",
    ".SQUARE WITH RIGHT HALF BLACKqTOP HALF BLACKoUPPER LEFT DIAGONAL HALF BLACK",
    "tTO LOWER RIGHT FILLyRIGHT DIAGONAL HALF BLACKtTO LOWER LEFT FILL.SQUARE WITH VERTICAL FILL",
    "sYAADOcRUeUANfD ASTERISKiCJK UNIFIED IDEOGRAPH-4E00b9c2Dc8CcA4e518Dd21Dc4Dc72d3CCcF3d408c39",
    "d5B6d8F0d91Ac29dB57dDE6dF8Ce624Bc53c95d307c55d599cB0d620d708b9dE80dF14e7121d51Fc33d981dA7A",
    "dD42e89E3dCA9dD70e904Ad14DzLbOOLeDOT OPERATORmEIGHT KhFALLING DIAGONAL SLASHvIVE POINT ONE",
    "nOUR DOT PUNCTUATIONpKfREEeHCbDRcI-RESfVcIDcKATAKANA DEcKOKOeSAkEYdLATIN CAPITAL LETTER AbBbC",
    "bDbEbFbGbHbIbJbKbLbMbNbObPbQbRbSbTbUbVbWbXbYbZqSMALL LETTER DtOGICAL ANDdORiSSLESSiMINUSeV",
    "cNEWcGcOKbNE HUNDRED TWENTY PuPLUSdPVdRISING DIAGONAL SLASHvSALTIREgDbECOND SCREEN",
    "lVEN POINT ONEoHVcIXTY PgMALL CIRCLElOScQUAREfScTHREE DgIMESeWENTY-TWO POINT TWOsO KfUHD",
    "cP WITH EXCLAMATION MARKyVODcScWCgT BLACK RIGHTWARDS ARROWzIDeTADIUMeFF OF AESCULAPIUSlHERMES",
    "mMPED ENVELOPEnNDING PERSONmR AND CRESCENTmEQUALSgOF DAVIDhPERATORiWITH LEFT HALF BLACK",
    "pRIGHT HALF BLACKxTIONdUE OF LIBERTYpEAM LOCOMOTIVElING BOWLkNOGRAPHIC FULL STOPtTHOSCOPE",
    "jICK FIGUREa LEANING LEFTeRIGHTnWITH ARMS RAISEDlDRESSvOCK CHARTiPWATCHhRAIGHT RULERgNESS",
    "iWBERRYhESS OUTLINED WHITE STARxICTLY EQUIVALENT TOuUDIO MICROPHONEoFFED FLATBREADoPA",
    "eUBSCRIPT EIGHTeQUALS SIGNlFIVEdOUReLEFT PARENTHESISqMINUSfNINEeONEdPLUS SIGN",
    "jRIGHT PARENTHESISrSEVENeIXdTHREEeWOdZEROkET ABOVE RIGHTWARDS ARROWqSUBSETePERSEToOF",
    "a ABOVE ALMOST EQUAL TOpEQUALS SIGNlNOT EQUAL TOmTILDE OPERATORuOR EQUAL TOa WITH DOT ABOVE",
    ".SUBSET OF WITH NOT EQUAL TOuWITH DOTdMULTIPLICATION SIGN BELOWzPLUS SIGN BELOWzCCEEDS",
    "a ABOVE ALMOST EQUAL TOpEQUALS SIGNlNOT ALMOST EQUAL TOpEQUAL TOmSINGLE-LINE EQUALS SIGN",
    "lNOT EQUAL TO.SUCCEEDS BUT NOT EQUIVALENT TOvOR EQUAL TOfIVALENT TOqUNDER RELATION",
    "vMMATION BOTTOMgTOPdWITH INTEGRALvNa BEHIND CLOUDmWITH FACEkDANESE AVAGRAHA",
    "iCONSONANT SIGN PAMINGKALhNYAKRAeIKUfSANGAN MAcWA.SUNDANESE DIGIT EIGHTfFIVEdOUReNINEeONE",
    "dSEVENeIXdTHREEeWOdZEROkLETTER AaEcBAbHAdCAcDAcEaUcFAbINAL KbMhGAcHAcIbJAcKAbHAdLAbEUdMAcNA",
    "bGAcYAdObPAcQAcRAbEUdSAbYAdTAcUbVAcWAcXAcYAcZAjPUNCTUATION BINDU BA SATANGAkCAKRAfDA SATANGA",
    "kKA SATANGAkLEU SATANGAlPANGLONGhURNAMAhSURYAxSIGN PAMAAEHfNGLAYARfWISADgYECEKiVIRAMA",
    "lVOWEL SIGN PAMEPETfNAELAENGhEULEUNGhGHULUfOLONGfYUKUzFLOWERgRISEa OVER MOUNTAINS",
    "tSET OVER BUILDINGStPERHEROeSCRIPT EIGHTeQUALS SIGNlFIVEdOUReLATIN SMALL LETTER IbN",
    "tEFT PARENTHESISqMINUSfNINEeONEdPLUS SIGNjRIGHT PARENTHESISrSEVENeIXdTHREEeWOdZERO",
    "kET ABOVE LEFTWARDS ARROWpSUBSETePERSEToBESIDE AND JOINED BY DASH WITH SUBSET",
    ".SUPERSET BESIDE SUBSETnOFa ABOVE ALMOST EQUAL TOpEQUALS SIGNlNOT EQUAL TOmTILDE OPERATOR",
    "uOR EQUAL TOa WITH DOT ABOVE.SUPERSET OF WITH NOT EQUAL TOuPRECEDING SOLIDUSrWITH DOT",
    "dMULTIPLICATION SIGN BELOWzPLUS SIGN BELOWyVILLAINkRFACE INTEGRALmEReSHIcPENSION RAILWAYrWAN",
    "bSH AMPERSAND ORNAMENTwIMMERfUNG DASHjYLOTI NAGRI LETTER AbBHOcOcCHOcOcDDHOcOcHOcOcEbGHOcOcHO",
    "cIbJHOcOcKHOcOcLOcMOcNOcObPHOcOcRObROdSOcTHOcObTHOcOdUiPOETRY MARK-1b2b3b4",
    "nSIGN ALTERNATE HASANTAqNUSVARAiDVISVARAiHASANTAmVOWEL SIGN AbEbIbOOcUxMBOL FOR ACKNOWLEDGE",
    "lBACKSPACEiELLeCANCELeRRIAGE RETURNpDATA LINK ESCAPEpELETEa FORM TWOnVICE CONTROL FOUReONE",
    "dTHREEeWOsEND OF MEDIUMgTEXTdRANSMISSIONa BLOCKxQUIRYgSCAPEgFILE SEPARATORnORM FEED",
    "jGROUP SEPARATORpHORIZONTAL TABULATIONvLINE FEEDjMARKS CHAPTERnNEGATIVE ACKNOWLEDGEsWLINEgULL",
    "eRECORD SEPARATORqSAMARITAN SOURCEpHIFT INcOUTiPACEeTART OF HEADINGhTEXTmUBSTITUTEa FORM TWO",
    "sYNCHRONOUS IDLEqTYPE A ELECTRONICSsUNIT SEPARATORoVERTICAL TABULATION.SYMMETRYgNAGOGUE",
    "hRIAC ABBREVIATION MARKrBARREKHhCOLON SKEWED LEFTeRIGHTqNTRACTIONlDOTTED ZLAMA ANGULAR",
    "hHORIZONTALxEND OF PARAGRAPHpSASA ABOVEfBELOWlFEMININE DOTmHARKLEAN ASTERISCUSkMETOBELUS",
    "jOBELUSoBASA ABOVEfBELOWg-ESASA DOTTEDrORIZONTAL COLONqLETTER ALAPHfBETHeDALATH",
    "fOTLESS DALATH RISHtEbFINAL SEMKATHnGAMALa GARSHUNIoHEaTHeKAPHeLAMADHgMALAYALAM BHAdJAcLLAbLA",
    "eNGAcNAbNAdYAdRAcSSAdTTAmIMdNUNdPEaRSIAN BHETHfDHALATHhGHAMALoQAPHeREVERSED PEkISHeSADHE",
    "eEMKATHgHINdOGDIAN FEcKHAPHfZHAINmUPERSCRIPT ALAPHrTAWcETHa GARSHUNInWAWdYUDHa HEhZAINlMUSIC",
    "fOBLIQUE LINE ABOVEfBELOWsPTHAHA ABOVEfBELOWfDOTTEDnQUSHSHAYAjRBASA ABOVEfBELOWkUKKAKHAhWAHA",
    "fSUBLINEAR COLONa SKEWED RIGHTsFULL STOPrPRALINEAR COLONa SKEWED LEFTrFULL STOP",
    "vTHREE DOTS ABOVEfBELOWpWO VERTICAL DOTS ABOVEfBELOWxZQAPHA ABOVEfBELOWfDOTTEDqNGEhT-REX",
    "dSHIRTgABLE TENNIS PADDLE AND BALL.TACOcG AMPERSANDiPOSTROPHEjSTERISKiCIRCUMFLEX ACCENTqOLON",
    "dMMAbERCIAL ATnDIGIT EIGHTfFIVEdOUReNINEeONEdSEVENeIXdTHREEeWOdZEROjOLLAR SIGNlEQUALS SIGN",
    "kXCLAMATION MARKqFULL STOPjGRAVE ACCENTkEATER-THAN SIGNrHYPHEN-MINUSmLATIN CAPITAL LETTER AbB",
    "bCbDbEbFbGbHbIbJbKbLbMbNbObPbQbRbSbTbUbVbWbXbYbZqSMALL LETTER AbBbCbDbEbFbGbHbIbJbKbLbMbNbObP",
    "bQbRbSbTbUbVbWbXbYbZtEFT CURLY BRACKETnPARENTHESISlSQUARE BRACKETrSS-THAN SIGNnOW LINE",
    "iNUMBER SIGNlPERCENT SIGNlLUS SIGNjQUESTION MARKlOTATION MARKoREVERSE SOLIDUS",
    "oIGHT CURLY BRACKETnPARENTHESISlSQUARE BRACKETuSEMICOLONiOLIDUSgPACEfTILDEfVERTICAL LINE",
    "oALOG LETTER AaRCHAIC RAkBAcDAcGAcHAcIbKAcLAcMAcNAbGAdPAcRAcSAcTAcUbWAcYAjSIGN PAMUDPOD",
    "iVIRAMAlVOWEL SIGN IbUrBANWA LETTER AbBAcDAcGAcIbKAcLAcMAcNAbGAdPAcSAcTAcUbWAcYAjVOWEL SIGN I",
    "bUtI LE LETTER AaIbUEdEaEbHcFAcHAcIbKAbHAdLAcMAcNAbGAdOaOcPAbHAdQAcSAcTAbHAcONE-2b3b4b5b6fSA",
    "bHAeUaEcVAcXAcYAmTHAM COMBINING CRYPTOGRAMMIC DOTzNSONANT SIGN BAcFINAL NGA",
    "jHIGH RATHA OR LOW PAuLA TANG LAIkOW PAgMAbEDIAL LAcRAjSArHORA DIGIT EIGHTfFIVEdOUReNINEeONE",
    "dSEVENeIXdTHREEeWOdZEROpLETTER AbBAcDAcEEcGREAT SAiHIGH CAbHAdFAcHAcKAbHAcXAdPAbHAdRATHAfSA",
    "bHAcSAdTAbHAdYAhIaIcLAaEcLAcOW CAbHAdFAcHAcKAbHAcXAdPAbHAdRATHAfSAcTAbHAdYAfUEdMAcNAbGAcYAdOO",
    "cRAaNAcTAdUEdUaUcWAjSIGN CAANGfDOKMAIgHANGdOYdKAANaKUUgEOWdHUEN TONE-3b4b5h-LUE KARAN",
    "pMAI KANGa LAIiSAMdYAMOKjRA HAAMgEVERSED ROTATED RANAvSAKOTdTKAANaKUUiWANfTONE-1b2gWIANGaWAAK",
    "oTHAM DIGIT EIGHTfFIVEdOUReNINEeONEdSEVENeIXdTHREEeWOdZEROpVOWEL SIGN AaAbEbIcEbIaIcMAI SAThO",
    "aA ABOVEfBELOWhObYcTALL AAgHAM AIhUaEbUaEtVIET LETTER HIGH BOcCHOcOcDOcFOcGOcHOcKHHOcOcOcLO",
    "cMOcNGOcObYOdObPHOcOcROcSOcTHOcOcVOcYOhLOW BOcCHOcOcDOcFOcGOcHOcKHHOcOcOcLOcMOcNGOcObYOdObPHO",
    "cOcROcSOcTHOcOcVOcYOnMAI KANGdHITiSYMBOL HO HOIgKOI KOIfNdNUENGfSAMkTONE MAI EKcNUENGfSONG",
    "eTHOmVOWEL AAbMbNbUEcYcEbIaAcObUaAbEaAqKEOUT BOXiRI ABBREVIATION SIGNrDIGIT EIGHTfFIVEdOUR",
    "eNINEeONEdSEVENeIXdTHREEeWOdZEROkLETTER AaAbIbRCHAIC KHAkUcBAbHAdCAbHAdDAbDAbHAdHAdEbGAbHAdHA",
    "cIaIcJAbHAdKAbHAdLAcMAcNAbGAcNAcYAdObPAbHAdRAbRAdSAbHAdTAbHAcTAbHAeUaUcVAcYAjSIGN ANUSVARA",
    "iNUKTAfVIRAMAeSARGAmVOWEL SIGN AAbIbUcEbIaIcObUaUrLLY MARK FIVEeONEmMALEdIL AND ODD SIGN",
    "lS ABOVE SIGNmU LENGTH MARKoCREDIT SIGNkURRENT SIGNmDAY SIGNhEBIT SIGNjIGIT EIGHTfFIVEdOUR",
    "eNINEeONEdSEVENeIXdTHREEeWOdZEROjRY CULTIVATION SIGNuFRACTION DOWNSCALING FACTOR KIIZH",
    "yONE EIGHTHbIETHjFIFTHeORTIETHiHALF-1b2gONE-HUNDRED-AND-SIXTIETHyQUARTERhSIXTEENTH-1b2",
    "hY-FOURTHmTENTHeHIRTY-SECONDlREE-HUNDRED-AND-TWENTIETH.TAMIL FRACTION ONE TWENTIETH",
    "nTHREE EIGHTIETHSkQUARTERSiSIXTEENTHSgY-FOURTHSnTWENTIETHSzIN POSSESSION SIGNsLAND SIGN",
    "iETTER AaAbIbUcCAcEaEcHAcIaIcJAcKAcLAbLAbLAeMAcNAbGAcNAbNAdYAdOaOcPAcRAbRAdSAbHAcSAdTAbTAdUaU",
    "cVAcYAjMONTH SIGNkNUMBER ONE HUNDREDhTHOUSANDmSIGNeTENkOMcPUNCTUATION END OF TEXTxRUPEE SIGN",
    "kSALT PAN SIGNmIGN AAZHAAKKUiNUSVARAiCEVITUgKAACUeURUNIeZHIfMUKKURUNIhTHALIYAhUVUZHAKKUlNEL",
    "dPAARAMeNAMdTHAKKUhONdUZHAKKUhVAKAIYARAAiRAAKANhELIdIRAMAeSARGAlPENT SIGNjTARTING FROM SIGN",
    "sTOTAL SIGNjRADITIONAL CREDIT SIGNlNUMBER SIGNxVOWEL SIGN AAbIbUcEaEcIaIcOaOcUaU",
    "nWET CULTIVATION SIGNuYEAR SIGNnNABATA TREEkGERINEfSA DIGIT EIGHTfFIVEdOUReNINEeONEdSEVENeIX",
    "dTHREEeWOdZEROkLETTER ACbQbWCbQbXbZcXbZcBAcCAbHAdDAbHAdECbQbXbZcFAbINAL NGiGAbHAdHAbTAbTAeIC",
    "bQbXbZcKAbHAdLAbONG UEXiMAbCbQbXbZcNAbGAcHAcYAdOCbQbXbZcPAbHAdRAcSAbHAbORT AWXdUEZjTAbHAcSA",
    "dUCbECbQbXbZcICbQbUCbQbXbZcXbZcQbXbZcVCbQbXbZcWAcXAcYAcZAmUT COMPONENT-001b2b3b4b5b6b7b8b9c10",
    "b1b2b3b4b5b6b7b8b9c20b1b2b3b4b5b6b7b8b9c30b1b2b3b4b5b6b7b8b9c40b1b2b3b4b5b6b7b8b9c50b1b2b3b4",
    "b5b6b7b8b9c60b1b2b3b4b5b6b7b8b9c70b1b2b3b4b5b6b7b8b9c80b1b2b3b4b5b6b7b8b9c90b1b2b3b4b5b6b7b8",
    "b9d100b1b2b3b4b5b6b7b8b9c10b1b2b3b4b5b6b7b8b9c20b1b2b3b4b5b6b7b8b9c30b1b2b3b4b5b6b7b8b9c40b1",
    "b2b3b4b5b6b7b8b9c50b1b2b3b4b5b6b7b8b9c60b1b2b3b4b5b6b7b8b9c70b1b2b3b4b5b6b7b8b9c80b1b2b3b4b5",
    "b6b7b8b9c90b1b2b3b4b5b6b7b8b9d200b1b2b3b4b5b6b7b8b9c10b1b2b3b4b5b6b7b8b9c20b1b2b3b4b5b6b7b8b9",
    "c30b1b2b3b4b5b6b7b8b9c40b1b2b3b4b5b6b7b8b9c50b1b2b3b4b5b6b7b8b9c60b1b2b3b4b5b6b7b8b9c70b1b2b3",
    "b4b5b6b7b8b9c80b1b2b3b4b5b6b7b8b9c90b1b2b3b4b5b6b7b8b9d300b1b2b3b4b5b6b7b8b9c10b1b2b3b4b5b6b7",
    "b8b9c20b1b2b3b4b5b6b7b8b9c30b1b2b3b4b5b6b7b8b9c40b1b2b3b4b5b6b7b8b9c50b1b2b3b4b5b6b7b8b9c60b1",
    "b2b3b4b5b6b7b8b9c70b1b2b3b4b5b6b7b8b9c80b1b2b3b4b5b6b7b8b9c90b1b2b3b4b5b6b7b8b9d400b1b2b3b4b5",
    "b6b7b8b9c10b1b2b3b4b5b6b7b8b9c20b1b2b3b4b5b6b7b8b9c30b1b2b3b4b5b6b7b8b9c40b1b2b3b4b5b6b7b8b9",
    "c50b1b2b3b4b5b6b7b8b9c60b1b2b3b4b5b6b7b8b9c70b1b2b3b4b5b6b7b8b9c80b1b2b3b4b5b6b7b8b9c90b1b2b3",
    "b4b5b6b7b8b9d500b1b2b3b4b5b6b7b8b9c10b1b2b3b4b5b6b7b8b9c20b1b2b3b4b5b6b7b8b9c30b1b2b3b4b5b6b7",
    "b8b9c40b1b2b3b4b5b6b7b8b9c50b1b2b3b4b5b6b7b8b9c60b1b2b3b4b5b6b7b8b9c70b1b2b3b4b5b6b7b8b9c80b1",
    "b2b3b4b5b6b7b8b9c90b1b2b3b4b5b6b7b8b9d600b1b2b3b4b5b6b7b8b9c10b1b2b3b4b5b6b7b8b9c20b1b2b3b4b5",
    "b6b7b8b9c30b1b2b3b4b5b6b7b8b9c40b1b2b3b4b5b6b7b8b9c50b1b2b3b4b5b6b7b8b9c60b1b2b3b4b5b6b7b8b9",
    "c70b1b2b3b4b5b6b7b8b9c80b1b2b3b4b5b6b7b8b9c90b1b2b3b4b5b6b7b8b9d700b1b2b3b4b5b6b7b8b9c10b1b2",
    "b3b4b5b6b7b8b9c20b1b2b3b4b5b6b7b8b9c30b1b2b3b4b5b6b7b8b9c40b1b2b3b4b5b6b7b8b9c50b1b2b3b4b5b6",
    "b7b8b9c60b1b2b3b4b5b6b7b8nITERATION MARKtPE CARTRIDGEjDRIVEiURUSeXIdEACUP WITHOUT HANDLEsPOT",
    "dR-OFF CALENDARnDROP-BARBED RIGHTWARDS ARROWxSPOKED ASTERISKwDDY BEARiLEPHONE LOCATION SIGN",
    "nON TOP OF MODEMpRECEIVERa WITH PAGEpORDERiSIGNkSCOPEfVISIONhUGU AI LENGTH MARKoDIGIT EIGHT",
    "fFIVEdOUReNINEeONEdSEVENeIXdTHREEeWOdZEROkFRACTION DIGIT ONE FOR EVEN POWERS OF FOUR",
    "tODD POWERS OF FOUR.TELUGU FRACTION DIGIT THREE FOR EVEN POWERS OF FOURtODD POWERS OF FOUR",
    ".TELUGU FRACTION DIGIT TWO FOR EVEN POWERS OF FOURtODD POWERS OF FOUR",
    ".TELUGU FRACTION DIGIT ZERO FOR ODD POWERS OF FOUR.TELUGU LENGTH MARKjTTER AaAbIbUcBAbHAdCA",
    "bHAdDAbDAbHAdHAcZAdEaEcGAbHAdHAcIaIcJAbHAdKAbHAdLAbLAbLAeMAcNAaKAARA POLLUmGAcNAcYAdOaOcPAbHA",
    "dRAbRAbRAeSAbHAcSAdTAbHAcSAcTAbHAeUaUcVAbOCALIC LaLcRaRkYAjSIGN ANUSVARAhVAGRAHAiCANDRABINDU",
    "kOMBINING ANUSVARA ABOVEoCANDRABINDU ABOVE.TELUGU SIGN NUKTAfSIDDHAMhTUUMUfVIRAMAeSARGA",
    "mVOWEL SIGN AAbIbUcEaEcIaIcOaOcUaUcVOCALIC LaLcRaR.TENGE SIGNhNIS RACQUET AND BALLuTcST TUBE",
    "hTRAGRAM FOR ACCUMULATIONlDVANCEgGGRAVATIONkSCENTgBARRIERgOLD RESOLUTIONoRANCHING OUTnCENTRE",
    "fHANGEfLOSED MOUTHhNESSfUREgOMPLETIONfIANCEiNSTANCYgTACTdENTIONgRARIETYlDARKENINGiECISIVENESS",
    "kFECTIVENESS OR DISTORTIONzPARTUREiIFFICULTIESkMINISHMENTjMINGfVERGENCEjOUBTeUTIESgEASE",
    "dMBELLISHMENTmNCOUNTERSiDEAVOURhLARGEMENTkTERNITYhXHAUSTIONkFAILUREgLIGHTfOLLOWINGhSTERING",
    "iULL CIRCLEhNESSiGATHERINGa INlOING TO MEETmREATNESSiUARDEDNESSlHARDNESShOLDING BACKmINCREASE",
    "gNERfJOYdKEEPING SMALLmINSHIPhLABOURINGhW OR MODELlEGIONgMASSINGgEASUREgIREDfON THE VERGE",
    "lPPOSITIONkPACKINGfTTERNgENETRATIONkURITYgREACHdLEASEfSIDENCEfSTANCEhPONSEhITUALgSEVERANCE",
    "iINKINGgTOPPAGEfVEdRENGTHiUNITYfVASTNESS OR WASTINGtWAITINGfTCHfYOUTHFULNESSzHAANA AABAAFILI",
    "iBAFILIhEBEFILIgEBEEFILIiYBEYFILIjIBIFILIhLETTER AINUdLIFUfBAAdCHAVIYANIjDAADHUeVIYANIhHAALU",
    "gFAAFUfGAAFUeHAINUfNAVIYANIjHAAcHAAeJAVIYANIiKAAFUeHAAeLAAMUeHAVIYANIjMEEMUfNAAcOONUfPAVIYANI",
    "iQAAFUfRAAdSAADHUfEENUeHAVIYANIhEENUgTAVIYANIhHAAaLUfObTAAeVAAVUfWAAVUfYAAdZAAbVIYANIhO",
    "jOABOAFILIiBOFILIgOBOOFILIjSUKUNfUBUFILIlI CHARACTER ANGKHANKHUkBO BAIMAIjCHO CHANaGdINGdOE",
    "iDO CHADAfDEKgFO FAaNeNGMANhHO HIPdNOKHUKjKHO KHAIcONcUATdWAIfRAKHANGiMUTfO KAIgLAKKHANGYAO",
    "kO CHULAfLINGgUcMAI CHATTAWAiEKcHAN-AKATiTHOcRIeTAIKHUgYAMOKhO MAfNGO NGUgIKHAHIThO NENcU",
    "fO ANGfPAIYANNOIiHINTHUfO PHANcUNGfSAMPHAOkO PLAgRO RUAfUcSARA AaAbEbI MAIMALAIeUANjMcEbIaIcO",
    "bUaEaEcUgO RUSIeSALAdObUAgTHANTHAKHATjO NANGMONTHOkPHUTHAOhTHAHANdNcONGdUNGiO PATAKfTAO",
    "gWO WAENhYAMAKKANhO YAKcINGqURRENCY SYMBOL BAHTuDIGIT EIGHTfFIVEdOUReNINEeONEdSEVENeIXdTHREE",
    "eWOdZEROnERE DOES NOT EXISToEXISTShFOREfMODYNAMIChMETERjIN GREEK CROSSlSALTIREgPACEgKING FACE",
    "kRD PLACE MEDALpONG SANDALjUGHT BALLOONnREE BUTTON MOUSEmCONSECUTIVE EQUALS SIGNS",
    "yDIMENSIONAL ANGLEqOT PUNCTUATIONpLEFTWARDS ARROWSpINES CONVERGING LEFTeRIGHT",
    "wNETWORKED COMPUTERStPOINTED BLACK STARsRAYS ABOVEfBELOWfLEFTeRIGHTjIGHTWARDS ARROWS",
    "rSPEECH BUBBLESp-D BOTTOM-LIGHTED RIGHTWARDS ARROWHEAD",
    ".THREE-D LEFT-LIGHTED DOWNWARDS EQUILATERAL ARROWHEAD",
    ".THREE-D RIGHT-LIGHTED UPWARDS EQUILATERAL ARROWHEAD",
    ".THREE-D TOP-LIGHTED LEFTWARDS EQUILATERAL ARROWHEAD.THREE-D TOP-LIGHTED RIGHTWARDS ARROWHEAD",
    "jEQUILATERAL ARROWHEAD.THREE-EM DASHhPER-EM SPACEqUMBS DOWN SIGNjUP SIGNlNDER CLOUD AND RAIN",
    "pSTORMlIBETAN ASTROLOGICAL SIGN -KHYUD PAjSDONG TSHUGSlGRA GCAN -CHAR RTAGS",
    ".TIBETAN CANTILLATION SIGN CANG TE-UjHEAVY BEATkLIGHT BEATkSBUB -CHAL.TIBETAN DIGIT EIGHT",
    "fFIVEdOUReHALF EIGHTfFIVEdOUReNINEeONEdSEVENeIXdTHREEeWOdZEROjNINEeONEdSEVENeIXdTHREEeWOdZERO",
    "kKU RU KHAa BZHI MIG CANwLETTER -AcAbBAbHAdCAbHAdDAbDAbHAdHAcZAbHAeFIXED-FORM RAnGAbHAdHAcJA",
    "cKAbHAcKAcSSAeLAcMAcNAbGAcNAcYAdPAbHAdRAbRAdSAbHAcSAdTAbHAcSAbHAdTAbHAeWAcYAcZAbHA",
    "jOGOTYPE SIGN CHAD RTAGSkLHAG RTAGSyMARK ANG KHANG GYAScONoBKA- SHOG YIG MGOqSDUS RTAGS",
    "jKA- SHOG GI MGO RGYANuUR YIG MGOnCARET -DZUD RTAGS BZHI MIG CANmME LONG CAN",
    "xYIG MGO PHUR SHAD MAzHE MGOgLOSING BRDA RNYING YIG MGO SGAB MA",
    ".TIBETAN MARK CLOSING YIG MGO SGAB MAxDELIMITER TSHEG BSTARvGTER TSHEG",
    "fYIG MGO -UM GTER TSHEG MAnRNAM BCAD MAqTRUNCATED AxUG RTAGS GYAScONoHALANTA",
    "hINITIAL BRDA RNYING YIG MGO MDUN MA.TIBETAN MARK INITIAL YIG MGO MDUN MAvTERSYLLABIC TSHEG",
    "tLEADING MCHAN RTAGStMNYAM YIG GI MGO RGYANwNGAS BZUNG NYI ZLAhSGOR RTAGSuYIS SHADeTSHEG",
    "a SHADpPALUTAgRGYA GRAM SHADnIN CHEN SPUNGS SHADuSBRUL SHADjHADeTRAILING MCHAN RTAGStSA -PHRU",
    "hHEG SHADkYIG MGO TSHEG SHAD MA.TIBETAN SIGN GRU CAN RGYINGSlMED RGYINGSpINVERTED MCHU CAN",
    "rLCE TSA CANjI RTAGSjMAR TSHESiCHU CANiNYI ZLA NAA DAoRDEL DKAR GCIGdNYISeSUMeRDEL NAG",
    "nNAG GCIGdNYISeSUMeRDEL DKARrJES SU NGA ROnNAM BCADjSNA LDANiYANG RTAGSiR TSHES",
    "nUBJOINED LETTER -AcAbBAbHAdCAbHAdDAbDAbHAdHAcZAbHAeFIXED-FORM RAcWAcYAnGAbHAdHAcJAcKAbHAcSSA",
    "eLAcMAcNAbGAcNAcYAdPAbHAdRAcSAbHAcSAdTAbHAcSAbHAdTAbHAeWAcYAcZAbHAkSIGN INVERTED MCHU CAN",
    "rLCE TSA CANlMCHU CANwYLLABLE OMjMBOL DRIL BUhNOR BUa BZHI -KHYILlGSUM -KHYILlNYIS -KHYIL",
    "sPADMA GDANjHUR PAhRDO RJEa RGYA GRAMyVOWEL SIGN AAcEaEcIaIcOaOcREVERSED IaIlUaUcVOCALIC LaL",
    "cRaR.TICKETeE OVER INFINITYpFINAGH CONSONANT JOINERqLETTER AHAGGAR YAZHlYER YAGH",
    "jBERBER ACADEMY YAHbJsTAWELLEMET YAZnUAREG YAGHbNcHbKaHcNGcQbZHlYAaAbBaHcCHcDaDaHcHcFbGaHaHdH",
    "aHcJbKaHaHdLbMbNbPbQbRaRcSaHbScTaHbTcVbWbYbZaHbZdEaYcIbObUjMODIFIER LETTER LABIALIZATION MARK",
    ".TIFINAGH SEPARATOR MARKvGERa FACEhHT TRIFOLIATE SNOWFLAKEyLDEa OPERATOR",
    "a ABOVE LEFTWARDS ARROWpRIGHTWARDS ARROWwWITH DOT ABOVEjRISING DOTSzWITH DOT ABOVEfBELOW",
    "jRING ABOVEtMER CLOCKhS WITH LEFT HALF BLACKpRIGHT HALF BLACKzNY",
    "a TWO DOTS OVER ONE DOT PUNCTUATION.TIRED FACEhHUTA ABBREVIATION SIGNqNJIeDIGIT EIGHTfFIVE",
    "dOUReNINEeONEdSEVENeIXdTHREEeWOdZEROkGVANGfLETTER AaAbIbUcBAbHAdCAbHAdDAbDAbHAdHAdEbGAbHAdHA",
    "cIaIcJAbHAdKAbHAdLAcMAcNAbGAcNAcYAdObPAbHAdRAcSAbHAcSAdTAbHAcTAbHAeUaUcVAbOCALIC LaLcRaRkYA",
    "jOMcSIGN ANUSVARAhVAGRAHAiCANDRABINDUlNUKTAfVIRAMAeSARGAmVOWEL SIGN AAbIbUcEbIaIcObSHORT EbO",
    "hUaUcVOCALIC LaLcRaR.TIRONIAN SIGN CAPITAL ETkETpOILETeKYO TOWERjMATOeNGUEeOLBOXeTHaBRUSH",
    "iP ARC ANTICLOCKWISE ARROWa WITH PLUS.TOP ARC CLOCKWISE ARROW WITH MINUS.TOP CURLY BRACKET",
    "nHALF BLACK CIRCLEmINTEGRALiLEFT PARENTHESISqRIGHT PARENTHESISrSECTION SIGNpTdLEFT CORNERfROP",
    "eHALF BRACKETrPARENTHESISlRIGHT CORNERfROPeHALF BRACKETsSQUARE BRACKEToTORTOISE SHELL BRACKET",
    "wWITH UPWARDS ARROW ABOVE.TORTOISE SHELL BRACKETED CJK UNIFIED IDEOGRAPH-4E09c8Ce52DDdB89",
    "e6253d557d72Ce70B9d6D7.TORTOISE SHELL BRACKETED LATIN CAPITAL LETTER S.TOTAL RUNOUT",
    "jO LETTER AaEcBAbREATHY AEcEaOcIaUkCHAdDAcEaOcGAcHAcIaUcJAcKAcLAcMAcNAbGAdObPAcRAcSAcTAcUbWA",
    "cYAjSIGN RISING TONEuRACKBALLfTOReDE MARK SIGNmINcMa CARfNSPLUTOfVERSAL INTERSECTION",
    "wIANGLE WITH DOT ABOVEjROUNDED CORNERSpSERIFS AT BOTTOMqUNDERBARo-HEADED RIGHTWARDS ARROW",
    ".TRIANGULAR BULLETgFLAG ON POSTmRULERnCOLONfDENT EMBLEMlGRAM FOR EARTHfFIREeHEAVENgLAKE",
    "eMOUNTAINiTHUNDERhWATEReINDnPLE COLON OPERATORoDAGGER",
    "gHORIZONTAL BAR WITH DOUBLE VERTICAL STROKEwTRIPLE VERTICAL STROKE.TRIPLE INTEGRAL",
    "iNESTED GREATER-THANmLESS-THANqPLUSdRIMEfSOLIDUS BINARY RELATIONxTILDE",
    "fVERTICAL BAR BINARY RELATIONpDELIMITERjRIGHT TURNSTILEpWITH HORIZONTAL STROKE.TROLLaEYBUS",
    "hPHYcICAL DRINKfFISHlUEa LIGHT MOON ARTArMPETgUGRIK SIGNjLIPdMBLER GLASSlRKEYcISH LIRA SIGN",
    "oNED AMPERSANDiNGLEfBLACK PENTAGONiSHOGI PIECErCAPITAL FiOMMAfDAGGERfIGIT THREEeWO",
    "jGREEK SMALL LETTER IOTAxNORTH EAST POINTING LEAFsWEST POINTING LEAFwT SIGNiOK HAND SIGN",
    "mSANS-SERIF CAPITAL GbLbYtEMICOLONiMALL FgOUTH EAST POINTING LEAFsWEST POINTING LEAF",
    "yWHITE SHOGI PIECEvTLEfWELVE POINTED BLACK STARxISTED RIGHTWARDS ARROWS",
    "xO ASTERISKS ALIGNED VERTICALLY.TWO BUTTON MOUSEmCONSECUTIVE EQUALS SIGNSyDOT LEADER",
    "gPUNCTUATIONmS OVER ONE DOT PUNCTUATION.TWO HEARTSgINTERSECTING LOGICAL ANDdORxJOINED SQUARES",
    "oLOGICAL AND OPERATORmOR OPERATORtMEN HOLDING HANDSrSPEECH BUBBLESoWOMEN HOLDING HANDS",
    "u-EM DASHlUGARITIC LETTER AINcLPAeBETAeDELTAeHALeGAMLAeHAINfHOaTAeIbKAFcHAdLAMDAfMEMdNUNdPU",
    "cQOPAeRASHAfSADEcMKAeHINdSUdTETcHANNAfOcUbWOcYODdZETAdUjWORD DIVIDERuMBRELLAa ON GROUND",
    "jWITH RAIN DROPSxNAMUSED FACElCERTAINTY SIGNoDERTIEfO SYMBOLjICORN FACEjON",
    "a ABOVE BAR ABOVE INTERSECTIONwINTERSECTIONsBESIDE AND JOINED WITH UNION",
    ".UNION WITH LOGICAL ORkMINUS SIGNkOVERBARpTED SYMBOLkVERSAL RECYCLING SYMBOL",
    "yMARRIED PARTNERSHIP SYMBOL.UP ARROW THROUGH CIRCLEpHEADa BETWEEN TWO HORIZONTAL BARS",
    ".UP ARROWHEAD IN A RECTANGLE BOX.UP BARB LEFT DOWN BARB LEFT HARPOONmRIGHT HARPOON",
    ".UP BARB RIGHT DOWN BARB LEFT HARPOONmRIGHT HARPOON.UP DOWN ARROWa WITH BASEpBLACK ARROW",
    "lDOUBLE ARROWmSANS-SERIF ARROWqTRIANGLE-HEADED ARROWvWHITE ARROWqFISH TAIL",
    "jRIGHT DIAGONAL ELLIPSISxTACKa WITH CIRCLE ABOVEx-POINTING AIRPLANEiMILITARY AIRPLANE",
    "rRED TRIANGLEmSMALL AIRPLANEiRED TRIANGLEsTRIANGLE WITH LEFT HALF BLACKpRIGHT HALF BLACK",
    ".UPPER AND LEFT AND LOWER TRIANGULAR THREE QUARTERS BLOCK.UPPER AND LOWER ONE EIGHTH BLOCK",
    "qTRIANGULAR HALF BLOCK.UPPER AND RIGHT AND LOWER TRIANGULAR THREE QUARTERS BLOCK",
    ".UPPER BLADE SCISSORSoFIVE EIGHTHS BLOCKsHALF BLOCKa AND LOWER HALF INVERSE MEDIUM SHADE",
    ".UPPER HALF CIRCLEgINVERSE MEDIUM SHADE AND LOWER HALF BLOCK.UPPER HALF INVERSE WHITE CIRCLE",
    "uMEDIUM SHADErLEFT BLOCK DIAGONAL LOWER CENTRE TO LOWER MIDDLE RIGHTsUPPER MIDDLE RIGHTmRIGHT",
    "vLEFT TO LOWER MIDDLE RIGHTsUPPER CENTREgMIDDLE RIGHT",
    ".UPPER LEFT BLOCK DIAGONAL LOWER MIDDLE LEFT TO UPPER CENTREgMIDDLE RIGHTmRIGHT",
    ".UPPER LEFT BLOCK DIAGONAL UPPER MIDDLE LEFT TO UPPER CENTREgRIGHT.UPPER LEFT CORNER WITH DOT",
    "pOR LOWER RIGHT CURLY BRACKET SECTION.UPPER LEFT QUADRANT CIRCULAR ARCvTO LOWER RIGHT FILL",
    "sRIANGLEcULAR MEDIUM SHADE.UPPER ONE EIGHTH BLOCKmQUARTER BLOCK",
    "rRIGHT BLOCK DIAGONAL LOWER MIDDLE LEFT TO LOWER CENTREgRIGHT",
    ".UPPER RIGHT BLOCK DIAGONAL UPPER CENTRE TO LOWER MIDDLE RIGHTmRIGHTlUPPER MIDDLE RIGHT",
    ".UPPER RIGHT BLOCK DIAGONAL UPPER LEFT TO LOWER CENTREgMIDDLE RIGHTsUPPER MIDDLE RIGHT",
    ".UPPER RIGHT BLOCK DIAGONAL UPPER MIDDLE LEFT TO LOWER CENTREgMIDDLE RIGHTmRIGHT",
    ".UPPER RIGHT DROP-SHADOWED WHITE SQUARE.UPPER RIGHT OR LOWER LEFT CURLY BRACKET SECTION",
    ".UPPER RIGHT PENCILgQUADRANT CIRCULAR ARCvSHADOWED WHITE CIRCLEgSQUAREvTO LOWER LEFT FILL",
    "rRIANGLEcULAR MEDIUM SHADE.UPPER SEVEN EIGHTHS BLOCKtTHREE EIGHTHS BLOCKnQUARTERS BLOCK",
    "tRIANGULAR ONE QUARTER BLOCK.UPSIDE-DOWN FACEoWARDS ANCORAfRROWa AND RIGHT ONE EIGHTH BLOCK",
    ".UPWARDS ARROW FROM BARiLEFTWARDS OF DOWNWARDS ARROW.UPWARDS ARROW TO BARgWITH DOUBLE STROKE",
    "nEQUILATERAL ARROWHEADvHORIZONTAL STROKErLARGE TRIANGLE ARROWHEADyMEDIUM TRIANGLE ARROWHEAD",
    "zNOTCHED TAILmSMALL EQUILATERAL ARROWHEADvTRIANGLE ARROWHEADyTIP LEFTWARDSjRIGHTWARDS",
    "zBLACK ARROWfCIRCLED WHITE ARROWzCOMPRESSED ARROWqDASHED ARROWlOUBLE ARROWmFINGER-POST ARROW",
    "rHARPOON WITH BARB LEFT BESIDE DOWNWARDS HARPOON WITH BARB RIGHT",
    ".UPWARDS HARPOON WITH BARB LEFT BESIDE UPWARDS HARPOON WITH BARB RIGHT",
    ".UPWARDS HARPOON WITH BARB LEFT FROM BARiTO BARhWARDSjRIGHT FROM BARiTO BARhWARDS",
    ".UPWARDS HEAVY ARROWfCOMPRESSED ARROWwPAIRED ARROWSnQUADRUPLE ARROWpROCKETgSANS-SERIF ARROW",
    "pQUARED ARROWnTRIANGLE ARROWHEADk-HEADED ARROWa LEFTWARDS OF DOWNWARDS TRIANGLE-HEADED ARROW",
    ".UPWARDS TRIANGLE-HEADED ARROW TO BARgWITH BOLD SHAFTkDOUBLE HORIZONTAL STROKEyHEAVY SHAFT",
    "lLONG TIP LEFTWARDSjRIGHTWARDStMEDIUM SHAFTmNARROW SHAFTmVERY HEAVY SHAFT",
    ".UPWARDS TRIANGLE-HEADED DASHED ARROWmPAIRED ARROWS.UPWARDS TRIPLE ARROWlWO HEADED ARROW",
    "n-HEADED ARROW FROM SMALL CIRCLErWITH TRIANGLE ARROWHEADS.UPWARDS WHITE ARROWa FROM BAR",
    "a WITH HORIZONTAL BAR.UPWARDS WHITE ARROW ON PEDESTALa WITH HORIZONTAL BARoVERTICAL BAR",
    ".UPWARDS WHITE ARROW WITHIN TRIANGLE ARROWHEAD.UPWARDS WHITE DOUBLE ARROWa ON PEDESTAL.URANUS",
    "gVAI COMMAfDIGIT EIGHTfFIVEdOUReNINEeONEdSEVENeIXdTHREEeWOdZEROkFULL STOPjQUESTION MARK",
    "nSYLLABLE AaNcBAbEaEcHAbEaEcIbOaOcUcIbOaOcUcCAbEaEcIbOaOcUcDAbEaEcHAbEaEcHAbEaEcIbOaOcUcIbOaO",
    "cUcIbOaOcUcEaEaNcNcFAbEaEcIbOaOcUcGAbBAbEaEbNcIbOaNbOcUcEaEbNcIbOaOcUcHAaNcEaEbNcIaNcOaNbOcU",
    "aNdIaNcJAbEaEcIbOaOcUcKAaNcEaEcIbOaOcPAaNcEaEbNcIbOaOcUcUcLAbEaEbNGTHENERjIbOaOcUcMAbBAbEaEcI",
    "bOaOcUcEaEcGBAbEaEcIbOaOcUdIbOaOcUcNAbDAbEaEcIbOaLE DOcFAcKAcMAcSOOgOcUcEaEcGaANcENcGAbEaEbN",
    "cIbOaOcUcONdIbJAbEaEcIbOaOcUcOaOcUbYAbEaEcIbOaOcUdOaNbOaNdPAbEaEcIbOaOcUcRAbEaEcIbOaOcUcSAbE",
    "aEcHAbEaEcIbOaOcUcIbOaOcUcTAbEaEcHAbEaEcIbOaOcUcIbOaOcUcUaNcVAbEaEcIbOaOcUcWAaNcEaEaNcNcIaNcO",
    "aNbOaNdUaNdYAbEaEcIbOaOcUcZAbEaEcHAbEaEcIbOaOcUcIbOaOcUjMBOL BANGeDANGdO-OcONGfFAAcEENGfJONG",
    "eKEENGeUNGeNIIdTAAcINGdONGnMPIREfRIATION SELECTOR-1a0a0b1b2b3b4b5b6b7b8b9c1a0b1b2b3b4b5b6b7b8",
    "b9c2a0b1b2b3b4b5b6b7b8b9c3a0b1b2b3b4b5b6b7b8b9c4a0b1b2b3b4b5b6b7b8b9c5a0b1b2b3b4b5b6b7b8b9c6",
    "a0b1b2b3b4b5b6b7b8b9c7a0b1b2b3b4b5b6b7b8b9c8a0b1b2b3b4b5b6b7b8b9c9a0b1b2b3b4b5b6b7b8b9d2a0a0",
    "b1b2b3b4b5b6b7b8b9c1a0b1b2b3b4b5b6b7b8b9c2a0b1b2b3b4b5b6b7b8b9c3a0b1b2b3b4b5b6b7b8b9c4a0b1b2",
    "b3b4b5b6b7b8b9c5a0b1b2b3b4b5b6c6b7b8b9c3a0b1b2b3b4b5b6b7b8b9c4a0b1b2b3b4b5b6b7b8b9c5a0b1b2b3",
    "b4b5b6b7b8b9c6a0b1b2b3b4b5b6b7b8b9c7a0b1b2b3b4b5b6b7b8b9c8a0b1b2b3b4b5b6b7b8b9c9a0b1b2b3b4b5",
    "b6b7b8b9uECTOR OR CROSS PRODUCTvDIC SIGN ANUSVARA ANTARGOMUKHAmBAHIRGOMUKHAmUBHAYATO MUKHA",
    "oVAMAGOMUKHAa WITH TAIL.VEDIC SIGN ARDHAVISARGAlTIKRAMAiDOUBLE ANUSVARA ANTARGOMUKHA",
    ".VEDIC SIGN HEXIFORM LONG ANUSVARAwJIHVAMULIYAlLONG ANUSVARAnNIHSHVASA",
    "jREVERSED VISARGA ANUDATTAiUDATTAwOTATED ARDHAVISARGAtTHANG LONG ANUSVARAuTIRYAKgUPADHMANIYA",
    "lVISARGA ANUDATTAa WITH TAILsSVARITAhUDATTAa WITH TAILyYAJURVEDIC MIDLINE SVARITA",
    ".VEDIC TONE ATHARVAVEDIC INDEPENDENT SVARITA.VEDIC TONE CANDRA ABOVEfBELOWmDOT BELOW",
    "hUBLE RING ABOVEkSVARITAoKARSHANAgTHAKA ANUDATTAqPRENKHA",
    "hRIGVEDIC KASHMIRI INDEPENDENT SVARITA.VEDIC TONE RING ABOVEkSHARAfTHREE DOTS BELOW",
    "pRIPLE SVARITAnWO DOTS BELOWoYAJURVEDIC AGGRAVATED INDEPENDENT SVARITA",
    ".VEDIC TONE YAJURVEDIC INDEPENDENT SVARITAtKATHAKA INDEPENDENT SVARITAa SCHROEDER.VERSICLE",
    "fTICAL BAR BESIDE RIGHT TRIANGLEvDOUBLE LEFT TURNSTILEvTRIPLE RIGHT TURNSTILE",
    "wWITH HORIZONTAL STROKE.VERTICAL ELLIPSISiFOUR DOTSjIDEOGRAPHIC ITERATION MARK",
    ".VERTICAL KANA REPEAT MARKa LOWER HALFkUPPER HALFpWITH VOICED SOUND MARKa UPPER HALF",
    ".VERTICAL LINEa EXTENSIONjWITH CIRCLE ABOVEfBELOWmMIDDLE DOTuMALE WITH STROKE SIGN",
    "vONE EIGHTH BLOCK-2b3b4b5b6b7sSIX DOTSiTAB KEYgILDEeRAFFIC LIGHTnZIGZAG LINE",
    "rY BOLD GREEK CROSSqHEAVY EIGHT POINTED BLACK STARsSPOKED ASTERISKvFIVE SPOKED ASTERISK",
    "uGREEK CROSSlREVERSE SOLIDUSpSALTIREgIX SPOKED ASTERISKsOLIDUShWHITE CIRCLEgSQUARE",
    "sMUCH GREATER-THANmLESS-THANrSTAeIBRATION MODEmCTORY HANDkDEO CAMERAgGAMEfCASSETTE",
    "lETNAMESE ALTERNATE READING MARK CAcNHAY.VIEWDATA SQUAREnOLINeRGOdTHKUQI CAPITAL LETTER AbBBE",
    "cEcCEbHEdDEbHEdEaIcFEcGAcHAbHAdIaJEdJEcKAcLAbLAdMEcNEbJEdObPEcQAcREcSEbHEdTEbHEdUbVEcXEcYbZE",
    "rSMALL LETTER AbBBEcEcCEbHEdDEbHEdEaIcFEcGAcHAbHAdIaJEdJEcKAcLAbLAdMEcNEbJEdObPEcQAcREcSEbHE",
    "dTEbHEdUbVEcXEcYbZExOIDED GREEK CROSSqLCANOeLEYBALLhUME INTEGRALoULCANUS",
    "fGAR FRACTION FIVE EIGHTHShSIXTHSkOUR FIFTHSlONE EIGHTHgFIFTHfHALFeNINTHfQUARTERhSEVENTHgIXTH",
    "fTENTHeHIRDjSEVEN EIGHTHSnTHREE EIGHTHShFIFTHSgQUARTERSnWO FIFTHSgTHIRDSkZERO THIRDS.WAFFLE",
    "eNCHO DIGIT EIGHTfFIVEdOUReNINEeONEdSEVENeIXdTHREEeWOdZEROkLETTER AaAaNaGdNGcUcBAcCAcDAcEaN",
    "cFAcGAcHAcIaNGdJAcKAbHAdLAbLHAeMAcNAbGAcYAdOaNaGdPAbHAdRAcSAbHAdTAbHAcRAcSAdUaENdVAcWAcYAbIH",
    "dZAjNGUN SIGNjTONE KOIaNIfTUPaNIoING CRESCENT MOON SYMBOLuGIBBOUS MOON SYMBOL",
    "yRANG CITI CAPITAL LETTER AaMbNGcTcBUcDAcEaNNbYdGAcHARcIYOdOLOcRReIIcKOcNGAAdUNGeOaDDdPUcSII",
    "cSUUeTTEdUCbUcVIYOeWIcYAbObUaJsDIGIT EIGHTfFIVEdOUReNINEeONEdSEVENeIXdTHREEeWOdZERO",
    "kNUMBER EIGHTYgFIFTYeORTYfNINETYgSEVENTYgIXTYfTENcHIRTYfWENTYnOMcSMALL LETTER AaMbNGcTcBUcDA",
    "cEaNNbYdGAcHARcIYOdOLOcRReIIcKOcNGAAdUNGeOaDDdPUcSIIcSUUeTTEdUCbUcVIYOeWIcYAbObUaJzNING SIGN",
    "kSTEBASKETjTCHcER BUFFALOhCLOSETgPOLOeWAVEfMELONiVE ARROW POINTING DIRECTLY LEFTeRIGHT",
    ".WAVE DASHgING BLACK FLAGkHAND SIGNjWHITE FLAGoY DASHeLINEdOW LINEiOVERLINE",
    "lXING CRESCENT MOON SYMBOLuGIBBOUS MOON SYMBOLzEARY CAT FACEiFACEiDDING",
    "eGE-TAILED RIGHTWARDS ARROW.WEIGHT LIFTERlST SYRIAC CROSSqHALEdEELa OF DHARMAkCHAIR SYMBOL",
    "pITE ARROW SHAFT WIDTH ONEdTWO THIRDS.WHITE BULLETgCHESS BISHOPa ROTATED NINETY DEGREES",
    "oTWO HUNDRED SEVENTY DEGREES.WHITE CHESS EQUIHOPPERa ROTATED NINETY DEGREES.WHITE CHESS KING",
    "a ROTATED NINETY DEGREESoTWO HUNDRED SEVENTY DEGREES.WHITE CHESS KNIGHT",
    "a ROTATED FORTY-FIVE DEGREESsNINETY DEGREESoONE HUNDRED THIRTY-FIVE DEGREES",
    ".WHITE CHESS KNIGHT ROTATED THREE HUNDRED FIFTEEN DEGREES",
    ".WHITE CHESS KNIGHT ROTATED TWO HUNDRED SEVENTY DEGREESpTWENTY-FIVE DEGREES",
    ".WHITE CHESS KNIGHT-BISHOPgQUEENfROOKlPAWNa ROTATED NINETY DEGREES",
    "oTWO HUNDRED SEVENTY DEGREES.WHITE CHESS QUEENa ROTATED NINETY DEGREES",
    "oTWO HUNDRED SEVENTY DEGREES.WHITE CHESS ROOKa ROTATED NINETY DEGREES",
    "oTWO HUNDRED SEVENTY DEGREES.WHITE CHESS TURNED BISHOPgKINGdNIGHTgPAWNeQUEENfROOKqIRCLE",
    "a CONTAINING BLACK SMALL CIRCLE.WHITE CIRCLE WITH DOT RIGHThWN ARROWkLOWER LEFT QUADRANT",
    "nRIGHT QUADRANTuTWO DOTSiUPPER LEFT QUADRANTnRIGHT QUADRANT.WHITE CLUB SUIT",
    "iONCAVE-SIDED DIAMONDa WITH LEFTWARDS TICKoRIGHTWARDS TICK.WHITE DIAMOND",
    "a CONTAINING BLACK MEDIUM DIAMONDoSMALL DIAMONDnVERY SMALL DIAMOND.WHITE DIAMOND IN SQUARE",
    "jSUITeWITH CENTRED DOTxOWN POINTING BACKHAND INDEXoINDEXfLEFT HAND INDEX",
    "z-POINTING SMALL TRIANGLEoTRIANGLEvRAUGHTS KINGeMANmEXCLAMATION MARK ORNAMENTzFLAG",
    "a WITH HORIZONTAL MIDDLE BLACK STRIPE.WHITE FLORETTEfWERfOUR POINTED CUSPeSTARqROWNING FACE",
    "nHARD SHELL FLOPPY DISKvEARTa SUIThVY CHECK MARKkSALTIRE WITH ROUNDED CORNERS.WHITE HEXAGON",
    "gORIZONTAL ELLIPSEqURGLASSjLARGE SQUAREkTIN CROSSkEFT LANE MERGEkPOINTING BACKHAND INDEX",
    "oINDEXp-POINTING POINTERhSMALL TRIANGLEoTRIANGLEvOZENGE CONTAINING BLACK SMALL LOZENGE",
    ".WHITE MEDIUM DIAMONDhLOZENGEhSMALL SQUARElQUAREfTARkOON SELENAlNIBdPARALLELOGRAMmENNANT",
    "eTAGONiQUESTION MARK ORNAMENTwRECTANGLEiIGHT POINTING BACKHAND INDEXoINDEXp-POINTING PENTAGON",
    "hOINTERhSMALL TRIANGLEoTRIANGLExSCISSORShESAME DOTjHOGI PIECEkMALL LOZENGEhSQUAREfTAR",
    "iILING FACElPADE SUITjQUAREa BUTTONgCONTAINING BLACK MEDIUM SQUAREnSMALL SQUARE",
    "mVERY SMALL SQUARE.WHITE SQUARE WITH CENTRE VERTICAL LINEuLEFTWARDS TICKnOWER LEFT QUADRANT",
    "nRIGHT QUADRANTuRIGHTWARDS TICKoOUNDED CORNERSpUPPER LEFT QUADRANTnRIGHT QUADRANT",
    "uVERTICAL BISECTING LINE.WHITE STARdUNa BEHIND CLOUDa WITH RAINwWITH RAYSeSMALL CLOUD",
    "uTELEPHONEiOUCHTONE TELEPHONEsRAPEZIUMhIANGLE CONTAINING SMALL WHITE TRIANGLE",
    ".WHITE TWO-WAY LEFT WAY TRAFFICyUP POINTING BACKHAND INDEXoINDEXp-POINTING CHEVRON",
    "hSMALL TRIANGLEoTRIANGLEa WITH DOT.WHITE VERTICAL BARdELLIPSEhRECTANGLEpY SMALL SQUARE",
    "s-FEATHERED RIGHTWARDS ARROW.WIDE-HEADED DOWNWARDS BARB ARROWkHEAVY BARB ARROW",
    "qLIGHT BARB ARROWqMEDIUM BARB ARROWrVERY HEAVY BARB ARROW.WIDE-HEADED LEFTWARDS BARB ARROW",
    "kHEAVY BARB ARROWqLIGHT BARB ARROWqMEDIUM BARB ARROWrVERY HEAVY BARB ARROW",
    ".WIDE-HEADED NORTH EAST BARB ARROWkHEAVY BARB ARROWqLIGHT BARB ARROWqMEDIUM BARB ARROW",
    "rVERY HEAVY BARB ARROW.WIDE-HEADED NORTH WEST BARB ARROWkHEAVY BARB ARROWqLIGHT BARB ARROW",
    "qMEDIUM BARB ARROWrVERY HEAVY BARB ARROW.WIDE-HEADED RIGHTWARDS BARB ARROWkHEAVY BARB ARROW",
    "qLIGHT BARB ARROWqMEDIUM BARB ARROWrVERY HEAVY BARB ARROW.WIDE-HEADED SOUTH EAST BARB ARROW",
    "kHEAVY BARB ARROWqLIGHT BARB ARROWqMEDIUM BARB ARROWrVERY HEAVY BARB ARROW",
    ".WIDE-HEADED SOUTH WEST BARB ARROWkHEAVY BARB ARROWqLIGHT BARB ARROWqMEDIUM BARB ARROW",
    "rVERY HEAVY BARB ARROW.WIDE-HEADED UPWARDS BARB ARROWkHEAVY BARB ARROWqLIGHT BARB ARROW",
    "qMEDIUM BARB ARROWrVERY HEAVY BARB ARROW.WIGGLY VERTICAL LINEsLTED FLOWERlND BLOWING FACE",
    "mCHIMEgOWdE GLASShGbKING FACEkRED KEYBOARDkLESShOLF FACEhMANa WITH BUNNY EARSqS BOOTSfCLOTHES",
    "hHATdSANDALkENS SYMBOLlN SIGNgODcRD JOINERgSEPARATOR MIDDLE DOTwLD MAPgMbRIED FACE",
    "lRAPPED PRESENTnEATH PRODUCTlNCHdSTLERShITING HANDmX IN A RECTANGLE BOXt-RAY",
    "eIANGQI BLACK CANNONfHARIOThELEPHANTiGENERALhHORSEfMANDARINiSOLDIERnRED CANNONfHARIOT",
    "hELEPHANTiGENERALhHORSEfMANDARINiSOLDIERsORdYAWNING FACElELLOW HEARTkN SIGN",
    "gZIDI COMBINING HAMZA MARKkMADDA MARKuHYPHENATION MARKqLETTER BEcCHHIMdIMdIMdDADbLdELIFdTbW",
    "bYNdFAcGAFdHAYcHAdJAcKAFcHAFeLAMa WITH DOT ABOVEsMIMdNUNdOWcPEbHEdQAFdRAbHAdSADcEbHINdINdTA",
    "bHEdUMcVAa ALTERNATE FORMrWAWdXAbHEYNfYOTa WITH CIRCUMFLEX ABOVEzZAaLcEpI RADICAL BBUTdURdCHE",
    "cIPcUOPdYaPbTdDDURdUcGAbEPcGOPcUOdOTdHMOcXITcOPcUOeJJIEcUTcYcOcKEbITdLIaEcYRdMIbOPdNBIEdYIP",
    "cOPdZUPeOPcPUTcYTdQOTdSHATcOPcURcYcSIdTATcUcVEPcURdWOcYITcOcZAbOTcUPbRcZIETnSYLLABLE AaPbTbX",
    "cBAaPbTbXcBAaPbTbXcEaPbXcIaEaPbTbXcPbTbXcOaPbTbXcUaOaPbXcPbRaXcTbXcYaPbTbXdEaPbXcIaEaPbTbXcP",
    "bTbXcOaPbTbXcUaOaPbXcPbRaXcTbXcYaPbRaXcTbXdCAaPbTbXcEaPbXcHAaPbTbXcEaPbTbXcOaPbTbXcUaOaPbTbX",
    "cPbRaXcXcYaPbRaXcTbXdIaEaPbTbXcPbTbXcOaPbTbXcUaOaPbXcPbRaXcTbXcYaPbRaXcTbXdDAaPbTbXcDAaPbTbX",
    "cEaPbXcIaEaPbXcPbTbXcOaPbTbXcUaOaPbXcPbRaXcTbXdEaPbXcIaEaPbXcPbTbXcOaPbTbXcUaOaXcPbRaXcTbXdE",
    "aXcFAaPbTbXcIaPbTbXcOaPbXcUaPbRaXcTbXcYaPbTbXdGAaPbTbXcEaPbTbXcGAaPbTbXcEaPbTbXcIaEaPbXcTbXcO",
    "aPbTbXcUaOaPbTbXcPbRaXcTbXdIaEaPbTbXcPbTbXcOaPbTbXcUaOaPbTbXcPbRaXcTbXdHAaPbTbXcEaPbXcIEaXcT",
    "cLAaPbTbXcEaPbXcIaEaPbXcPbTbXcOaPbXcUaOaPbXcPbRaXcTbXcYaPbRaXcTbXdMAaPbTbXcIaEaPbXcPbTbXcOaP",
    "bTbXcUaOaPbXcPbRaXcTbXcYaPbRaXcXdNAaPbTbXcEaPbXcIaEaPbTbXcPbTbXcOPbTbXcUOaXcTdOaPbTbXcUOaPbT",
    "bXdXAaPbTbXcEaPbXcIaEaPbTbXcPbTbXcOaPbTbXcUOaPbTbXfIaEaPbTbXcPbTbXcJIaEaPbTbXcPbTbXcJIaEaPbT",
    "bXcPbTbXcOaPbTbXcUaOaPbXcPbRaXcTbXcYaPbTbXdOaPbTbXcUaOaPbTbXcPbRaXcTbXcYaPbRaXcTbXdKAaPbTbXcE",
    "aPbTbXcIaEaPbXcPbTbXcOaPbTbXcUaOaPbXcPbRaXcTbXdLAaPbTbXcEaPbXcIaEaPbTbXcPbTbXcOaPbTbXcUaOaPbT",
    "bXcPbRaXcTbXcYaPbRaXcTbXdMAaPbTbXcEaXcGAaPbTbXcEaPbXcIEaXdOaPbTbXcUaOaPbXcPbRaXcTbXdIaEaPbXcP",
    "bTbXcOaPbTbXcUaOaPbTbXcPbRaXcTbXcYaPbTbXdNAaPbXcBAaPbTbXcIaEaPbXcPbTbXcOaPbTbXcUaPbRaXcTbXcY",
    "aPbRaXcTbXdDAaPbTbXcEaPbXcIaEaXcPbTbXcOaPbTbXcUaPbRaXcTbXdEaPbXcGAaPbTbXcEaPbXcIEaPbXdOaPbTbX",
    "cUOaTbXeIaEaPbXcPbTbXcJIaEaPbTbXcPbTbXcOaPbTbXcUaOaXcPbRaXcXcYaPbRaXcTbXdOaPbTbXcRAaPbTbXcEaP",
    "bTbXcOaPbXcUaPbRaXcTbXcYaPbRaXcTbXdUaOaPbXcPbRaXcTbXcYIaEaPbTbXcPbTbXcOaPbTbXcUaOaPbXcPbTbX",
    "dZAaPbTbXcEaXcIaEaPbXcPbTbXcOPbXcUaOaXcPbRaXcXcYaPbRaXcTbXeOaPbTbXcPAaPbTbXcIaEaPbXcPbTbXcOaP",
    "bTbXcUaOaPbXcPbRaXcTbXcYaPbRaXcTbXdQIaEaPbTbXcPbTbXcOaPbTbXcUaOaPbTbXcPbRaXcTbXcYaPbRaXcTbX",
    "dRAaPbTbXcEaPbXcOaPbTbXcRAaXcEaPbTbXcOaPbTbXcUaOaXcPbRaXcTbXcYaPbRaXcTbXdUaOaPbXcPbRaXcTbXcY",
    "aPbRaXcTbXdSAaPbTbXcEaPbXcHAaPbTbXcEaPbTbXcOaPbTbXcUaOaPbXcPbRaXcTbXcYaPbRaXcTbXdIaEaPbXcPbT",
    "bXcOaPbTbXcSAaPbTbXcEaPbXcIaEaPbXcPbTbXcOaPbTbXcUaPbTbXcYaPbRaXcTbXdUaOaPbXcPbRaXcTbXcYaPbRaX",
    "cTbXdTAaPbTbXcEaPbXcIaEaPbXcPbTbXcOaPbTbXcUaOaPbTbXcPbRaXcTbXdUOaPbXdVAaPbTbXcEPbXcIaEaPbTbX",
    "cPbTbXcOaPbTbXcUaPbRaXcTbXcYaPbRaXcTbXdWAaPbTbXcEaPbXcOaPbXcUaOaPbXeXIaEaPbTbXcPbTbXcOaPbTbX",
    "cUOaXdYaPbRaXcTbXdYIaEaPbTbXcPbTbXcOaPbTbXcUaOaPbTbXcPbRaXcTbXcYaPbRaXcTbXdZAaPbTbXcEaPbXcHA",
    "aPbTbXcEaPbTbXcOaPbTbXcUaOaPbXcPbRaXcTbXcYaPbRaXcTbXdIaEaPbXcPbTbXcOaPbTbXcUaOaPbXcPbRaXcTbX",
    "cYaPbRaXcTbXcZAaPbTbXcEaPbXcIaEaPbTbXcPbTbXcOaPbXcUaPbRaXcXcYaPbRaXcTbXoN YANGhO-YO",
    "fZ NOTATION BAG MEMBERSHIPoDOMAIN ANTIRESTRICTIONwLEFT BINDING BRACKETpIMAGE BRACKET",
    "sRANGE ANTIRESTRICTIONuELATIONAL COMPOSITIONvIGHT BINDING BRACKETpIMAGE BRACKET",
    "tSCHEMA COMPOSITIONlPIPINGfROJECTIONqPOTeTYPE COLON",
    "uANABAZAR SQUARE CLOSING DOUBLE-LINED HEAD MARKwHEAD MARKpUSTER-FINAL LETTER LAcRAcVAcYA",
    "pINITIAL LETTER RAzFINAL CONSONANT MARKuINITIAL DOUBLE-LINED HEAD MARKwHEAD MARKrLETTER -AcA",
    "bBAbHAdCAbHAdDAbDAbHAdHAcZAbHAeGAbHAdHAcJAcKAbHAcSSAeLAcMAcNAbGAcNAcYAdPAbHAdRAcSAbHAcSAdTA",
    "bHAcSAbHAdTAbHAeVAcYAcZAbHAkMARK DOUBLE SHADlLONG TSHEGkSHADeTSHEGkSIGN ANUSVARA",
    "iCANDRA WITH ORNAMENToBINDUa WITH ORNAMENTzVIRAMAeSARGAlUBJOINERjVOWEL LENGTH MARKlSIGN AIbU",
    "cEbIbOaEcREVERSED IkUaE.ZEBRA FACEiRO WIDTH JOINERgNO-BREAK SPACEmN-JOINERkSPACEoUS",
    "dIPPER-MOUTH FACEqNAMENNY COMBINING ATTACHING VERTICAL OMETxLOWER TONAL RANGE INDICATOR",
    ".ZNAMENNY COMBINING MARK BORZAYAhCHASHKAa POLNAYAoURVED OMETlDEMESTVENNY ZADERZHKAuVOETOCHIE",
    "kGORAZDO NIZKO ON LEFTeRIGHTiS KRYZHEM ON LEFTeRIGHTyVYSOKOoKACHKAfRYZHa ON LEFTmUPNAYAhLOMKA",
    "fMALO POVYSHE ON LEFTeRIGHTiS KHOKHLOM ON LEFTeRIGHTqRYZHEMiTRANNOuNIZKO ON LEFTeRIGHT",
    "iS KRYZHEM ON LEFTeRIGHTyOBLACHKOhNbTSECHKAiPODCHASHIEa WITH VERTICAL STROKE",
    ".ZNAMENNY COMBINING MARK PODVERTKAhVYSHE ON LEFTeRIGHTiS KHOKHLOM ON LEFTeRIGHTqRYZHEMiTRANNO",
    "pRAVNOdZSEKAhSKOBAeOROCHYA NOZHKAoREDNE ON LEFTeRIGHToTRANNO MALO POVYSHEuTIKHAYAgOCHKA",
    "fSATA ON LEFTeRIGHTiS KRYZHEMpUDARKAgVYSOKO ON LEFTeRIGHTiS KHOKHLOM ON LEFTeRIGHTqRYZHEM",
    "qZADERZHKAiELOcVOKkTONAL RANGE MARK MRACHNOhSVETLOgTRESVETLO.ZNAMENNY NEUME CHASHKAfELYUSTKA",
    "kDEMESTVENNY KLYUCHqRBITSAhOUBLE ZAPYATAYApUDAdVA V CHELNUmFITAeGOLUBCHIK BORZYfMRACHNY",
    "hSVETLYgTIKHYeRESVETLYtKHAMILOgLYUCHfOBYLAfRYUKa TIKHYiZHeUFISMAhMECHIKa KLYUCHENEPOSTOYANNY",
    "mPOVODNYhVOYkPOVODNYoNEMKAfOBLAKOfSOKAa KLYUCHEVAYA NEPOSTOYANNAYAoSVETLAYA",
    "tRYUKOVAYA SVETLAYAtSVETLAYAiTRESVETLAYArPALKAdRAKLITgUKdEREVODKAa NEPOSTOYANNAYAxODCHASHIE",
    "iLKULIZMYkREVERSED CHELYUSTKAsOGdSKAMEYTSA DVOECHELNAYA KLYUCHEVAYAlNEPOSTOYANNAYAoPROSTAYA",
    "iSVETLAYAvKLYUCHENEPOSTOYANNAYAoVAYA SVETLAYAiTIKHAYAtMRACHNAYAjSVETLAYAiTIKHAYAgRESVETLAYA",
    "uLOZHITIEa S KRYZHEMhZAPYATOYkZAKRYTOErTATYAa NEPOSTOYANNAYAoS DVUMYA ZAPYATYMIqKRYZHEM",
    "a I ZAPYATOYsROGOMfZAPYATOYa I KRYZHEMhPODCHASHIEMyZAKRYTAYAa S ZAPYATOYzOPITSAa S OCHKOM",
    "iWITH SOROCHYA NOZHKA.ZNAMENNY NEUME STRELA DVOECHELNAYAa KLYUCHEVAYApOKRYZHEVAYAkPOVODNAYA",
    "a KLYUCHEVAYA.ZNAMENNY NEUME STRELA GROMNAYAa WITH SINGLE ZAPYATAYA",
    ".ZNAMENNY NEUME STRELA GROMOKRYZHEVAYAa POVODNAYAuPOVODNAYAa WITH DOUBLE ZAPYATAYA",
    "qSINGLE ZAPYATAYA.ZNAMENNY NEUME STRELA KLYUCHENEPOSTOYANNAYAoPOVODNAYApRYUKOVAYAa GROMNAYA",
    "a WITH SINGLE ZAPYATAYA.ZNAMENNY NEUME STRELA KRYUKOVAYA GROMOKRYZHEVAYAa POVODNAYAuPOVODNAYA",
    "a WITH DOUBLE ZAPYATAYAqSINGLE ZAPYATAYA.ZNAMENNY NEUME STRELA KRYUKOVAYA POVODNAYAjTRYASKA",
    "pZHEVAYAkMRACHNOTIKHAYAoNEPOSTOYANNAYAoPOLUPOVODNAYAlVODNAYAiROSTAYAiTIKHAYA PUTNAYA",
    "oRYASOGLASNAYAiPOVODNAYAjSTRELNAYAwVRAKHIYA KLYUCHEVAYA MRACHNAYAjPROSTAYAiSVETLAYA",
    "iTRESVETLAYAxMRACHNAYAjPROSTAYAiSVETLAYAiTRESVETLAYAuZANOZHEKgPYATAYAiMEYTSA",
    "nPRIZNAK MODIFIER DIRECTION FLIPoKRYZHfLEVEL-2b3hROG.ZOMBIE"]

end BranchCount.Text
