/-!
Further names of characters: those of control characters, abbreviations, and corrected names.
-/
namespace TypeStencil.Text.CharacterName

/-- Names, each with its code point. -/
def aliases : List String := [
  "NUL@0;NULL@0;SOH@1;START OF HEADING@1;START OF TEXT@2;STX@2;END OF TEXT@3;ETX@3",
  "END OF TRANSMISSION@4;EOT@4;ENQ@5;ENQUIRY@5;ACK@6;ACKNOWLEDGE@6;ALERT@7;BEL@7;BACKSPACE@8;BS@8",
  "CHARACTER TABULATION@9;HORIZONTAL TABULATION@9;HT@9;TAB@9;END OF LINE@A;EOL@A;LF@A;LINE FEED@A",
  "NEW LINE@A;NL@A;LINE TABULATION@B;VERTICAL TABULATION@B;VT@B;FF@C;FORM FEED@C;CARRIAGE RETURN@D",
  "CR@D;LOCKING-SHIFT ONE@E;SHIFT OUT@E;SO@E;LOCKING-SHIFT ZERO@F;SHIFT IN@F;SI@F",
  "DATA LINK ESCAPE@10;DLE@10;DC1@11;DEVICE CONTROL ONE@11;DC2@12;DEVICE CONTROL TWO@12;DC3@13",
  "DEVICE CONTROL THREE@13;DC4@14;DEVICE CONTROL FOUR@14;NAK@15;NEGATIVE ACKNOWLEDGE@15;SYN@16",
  "SYNCHRONOUS IDLE@16;END OF TRANSMISSION BLOCK@17;ETB@17;CAN@18;CANCEL@18;END OF MEDIUM@19",
  "EOM@19;SUB@1A;SUBSTITUTE@1A;ESC@1B;ESCAPE@1B;FILE SEPARATOR@1C;FS@1C",
  "INFORMATION SEPARATOR FOUR@1C;GROUP SEPARATOR@1D;GS@1D;INFORMATION SEPARATOR THREE@1D",
  "INFORMATION SEPARATOR TWO@1E;RECORD SEPARATOR@1E;RS@1E;INFORMATION SEPARATOR ONE@1F",
  "UNIT SEPARATOR@1F;US@1F;SP@20;DEL@7F;DELETE@7F;PAD@80;PADDING CHARACTER@80;HIGH OCTET PRESET@81",
  "HOP@81;BPH@82;BREAK PERMITTED HERE@82;NBH@83;NO BREAK HERE@83;IND@84;INDEX@84;NEL@85",
  "NEXT LINE@85;SSA@86;START OF SELECTED AREA@86;END OF SELECTED AREA@87;ESA@87",
  "CHARACTER TABULATION SET@88;HORIZONTAL TABULATION SET@88;HTS@88",
  "CHARACTER TABULATION WITH JUSTIFICATION@89;HORIZONTAL TABULATION WITH JUSTIFICATION@89;HTJ@89",
  "LINE TABULATION SET@8A;VERTICAL TABULATION SET@8A;VTS@8A;PARTIAL LINE DOWN@8B",
  "PARTIAL LINE FORWARD@8B;PLD@8B;PARTIAL LINE BACKWARD@8C;PARTIAL LINE UP@8C;PLU@8C",
  "REVERSE INDEX@8D;REVERSE LINE FEED@8D;RI@8D;SINGLE SHIFT TWO@8E;SINGLE-SHIFT-2@8E;SS2@8E",
  "SINGLE SHIFT THREE@8F;SINGLE-SHIFT-3@8F;SS3@8F;DCS@90;DEVICE CONTROL STRING@90",
  "PRIVATE USE ONE@91;PRIVATE USE-1@91;PU1@91;PRIVATE USE TWO@92;PRIVATE USE-2@92;PU2@92",
  "SET TRANSMIT STATE@93;STS@93;CANCEL CHARACTER@94;CCH@94;MESSAGE WAITING@95;MW@95;SPA@96",
  "START OF GUARDED AREA@96;START OF PROTECTED AREA@96;END OF GUARDED AREA@97",
  "END OF PROTECTED AREA@97;EPA@97;SOS@98;START OF STRING@98;SGC@99",
  "SINGLE GRAPHIC CHARACTER INTRODUCER@99;SCI@9A;SINGLE CHARACTER INTRODUCER@9A",
  "CONTROL SEQUENCE INTRODUCER@9B;CSI@9B;ST@9C;STRING TERMINATOR@9C;OPERATING SYSTEM COMMAND@9D",
  "OSC@9D;PM@9E;PRIVACY MESSAGE@9E;APC@9F;APPLICATION PROGRAM COMMAND@9F;NBSP@A0;SHY@AD",
  "LATIN CAPITAL LETTER GHA@1A2;LATIN SMALL LETTER GHA@1A3;CGJ@34F;ALM@61C",
  "SYRIAC SUBLINEAR COLON SKEWED LEFT@709;KANNADA LETTER LLLA@CDE;LAO LETTER FO FON@E9D",
  "LAO LETTER FO FAY@E9F;LAO LETTER RO@EA3;LAO LETTER LO@EA5",
  "TIBETAN MARK BKA- SHOG GI MGO RGYAN@FD0;HANGUL JONGSEONG YESIEUNG-KIYEOK@11EC",
  "HANGUL JONGSEONG YESIEUNG-SSANGKIYEOK@11ED;HANGUL JONGSEONG SSANGYESIEUNG@11EE",
  "HANGUL JONGSEONG YESIEUNG-KHIEUKH@11EF;FVS1@180B;FVS2@180C;FVS3@180D;MVS@180E;FVS4@180F",
  "ZWSP@200B;ZWNJ@200C;ZWJ@200D;LRM@200E;RLM@200F;LRE@202A;RLE@202B;PDF@202C;LRO@202D;RLO@202E",
  "NNBSP@202F;MMSP@205F;WJ@2060;LRI@2066;RLI@2067;FSI@2068;PDI@2069",
  "WEIERSTRASS ELLIPTIC FUNCTION@2118;MICR ON US SYMBOL@2448;MICR DASH SYMBOL@2449",
  "LEFTWARDS TRIANGLE-HEADED ARROW WITH DOUBLE VERTICAL STROKE@2B7A",
  "RIGHTWARDS TRIANGLE-HEADED ARROW WITH DOUBLE VERTICAL STROKE@2B7C",
  "YI SYLLABLE ITERATION MARK@A015;MYANMAR LETTER KHAMTI LLA@AA6E;VS1@FE00;VS2@FE01;VS3@FE02",
  "VS4@FE03;VS5@FE04;VS6@FE05;VS7@FE06;VS8@FE07;VS9@FE08;VS10@FE09;VS11@FE0A;VS12@FE0B;VS13@FE0C",
  "VS14@FE0D;VS15@FE0E;VS16@FE0F",
  "PRESENTATION FORM FOR VERTICAL RIGHT WHITE LENTICULAR BRACKET@FE18;BOM@FEFF",
  "BYTE ORDER MARK@FEFF;ZWNBSP@FEFF;CUNEIFORM SIGN NU11 TENU@122D4",
  "CUNEIFORM SIGN NU11 OVER NU11 BUR OVER BUR@122D5;MEDEFAIDRIN CAPITAL LETTER H@16E56",
  "MEDEFAIDRIN CAPITAL LETTER NG@16E57;MEDEFAIDRIN SMALL LETTER H@16E76",
  "MEDEFAIDRIN SMALL LETTER NG@16E77;HENTAIGANA LETTER E-1@1B001",
  "BYZANTINE MUSICAL SYMBOL FTHORA SKLIRON CHROMA VASIS@1D0C5;VS17@E0100;VS18@E0101;VS19@E0102",
  "VS20@E0103;VS21@E0104;VS22@E0105;VS23@E0106;VS24@E0107;VS25@E0108;VS26@E0109;VS27@E010A",
  "VS28@E010B;VS29@E010C;VS30@E010D;VS31@E010E;VS32@E010F;VS33@E0110;VS34@E0111;VS35@E0112",
  "VS36@E0113;VS37@E0114;VS38@E0115;VS39@E0116;VS40@E0117;VS41@E0118;VS42@E0119;VS43@E011A",
  "VS44@E011B;VS45@E011C;VS46@E011D;VS47@E011E;VS48@E011F;VS49@E0120;VS50@E0121;VS51@E0122",
  "VS52@E0123;VS53@E0124;VS54@E0125;VS55@E0126;VS56@E0127;VS57@E0128;VS58@E0129;VS59@E012A",
  "VS60@E012B;VS61@E012C;VS62@E012D;VS63@E012E;VS64@E012F;VS65@E0130;VS66@E0131;VS67@E0132",
  "VS68@E0133;VS69@E0134;VS70@E0135;VS71@E0136;VS72@E0137;VS73@E0138;VS74@E0139;VS75@E013A",
  "VS76@E013B;VS77@E013C;VS78@E013D;VS79@E013E;VS80@E013F;VS81@E0140;VS82@E0141;VS83@E0142",
  "VS84@E0143;VS85@E0144;VS86@E0145;VS87@E0146;VS88@E0147;VS89@E0148;VS90@E0149;VS91@E014A",
  "VS92@E014B;VS93@E014C;VS94@E014D;VS95@E014E;VS96@E014F;VS97@E0150;VS98@E0151;VS99@E0152",
  "VS100@E0153;VS101@E0154;VS102@E0155;VS103@E0156;VS104@E0157;VS105@E0158;VS106@E0159;VS107@E015A",
  "VS108@E015B;VS109@E015C;VS110@E015D;VS111@E015E;VS112@E015F;VS113@E0160;VS114@E0161;VS115@E0162",
  "VS116@E0163;VS117@E0164;VS118@E0165;VS119@E0166;VS120@E0167;VS121@E0168;VS122@E0169;VS123@E016A",
  "VS124@E016B;VS125@E016C;VS126@E016D;VS127@E016E;VS128@E016F;VS129@E0170;VS130@E0171;VS131@E0172",
  "VS132@E0173;VS133@E0174;VS134@E0175;VS135@E0176;VS136@E0177;VS137@E0178;VS138@E0179;VS139@E017A",
  "VS140@E017B;VS141@E017C;VS142@E017D;VS143@E017E;VS144@E017F;VS145@E0180;VS146@E0181;VS147@E0182",
  "VS148@E0183;VS149@E0184;VS150@E0185;VS151@E0186;VS152@E0187;VS153@E0188;VS154@E0189;VS155@E018A",
  "VS156@E018B;VS157@E018C;VS158@E018D;VS159@E018E;VS160@E018F;VS161@E0190;VS162@E0191;VS163@E0192",
  "VS164@E0193;VS165@E0194;VS166@E0195;VS167@E0196;VS168@E0197;VS169@E0198;VS170@E0199;VS171@E019A",
  "VS172@E019B;VS173@E019C;VS174@E019D;VS175@E019E;VS176@E019F;VS177@E01A0;VS178@E01A1;VS179@E01A2",
  "VS180@E01A3;VS181@E01A4;VS182@E01A5;VS183@E01A6;VS184@E01A7;VS185@E01A8;VS186@E01A9;VS187@E01AA",
  "VS188@E01AB;VS189@E01AC;VS190@E01AD;VS191@E01AE;VS192@E01AF;VS193@E01B0;VS194@E01B1;VS195@E01B2",
  "VS196@E01B3;VS197@E01B4;VS198@E01B5;VS199@E01B6;VS200@E01B7;VS201@E01B8;VS202@E01B9;VS203@E01BA",
  "VS204@E01BB;VS205@E01BC;VS206@E01BD;VS207@E01BE;VS208@E01BF;VS209@E01C0;VS210@E01C1;VS211@E01C2",
  "VS212@E01C3;VS213@E01C4;VS214@E01C5;VS215@E01C6;VS216@E01C7;VS217@E01C8;VS218@E01C9;VS219@E01CA",
  "VS220@E01CB;VS221@E01CC;VS222@E01CD;VS223@E01CE;VS224@E01CF;VS225@E01D0;VS226@E01D1;VS227@E01D2",
  "VS228@E01D3;VS229@E01D4;VS230@E01D5;VS231@E01D6;VS232@E01D7;VS233@E01D8;VS234@E01D9;VS235@E01DA",
  "VS236@E01DB;VS237@E01DC;VS238@E01DD;VS239@E01DE;VS240@E01DF;VS241@E01E0;VS242@E01E1;VS243@E01E2",
  "VS244@E01E3;VS245@E01E4;VS246@E01E5;VS247@E01E6;VS248@E01E7;VS249@E01E8;VS250@E01E9;VS251@E01EA",
  "VS252@E01EB;VS253@E01EC;VS254@E01ED;VS255@E01EE;VS256@E01EF"]

end TypeStencil.Text.CharacterName
