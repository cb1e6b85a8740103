import Intake.Text.CharacterName.Alphabets
import Intake.Text.CharacterName.Ancient
import Intake.Text.CharacterName.Basic
import Intake.Text.CharacterName.Eastern
import Intake.Text.CharacterName.Symbols
import Intake.Text.CharacterName.Pictographs
import Intake.Text.CharacterName.Southern
import Intake.Text.Digit
import Intake.Text.Ends

/-!
# Characters by their names

A character is found by its name, by another name that the standard gives it, or by the rule that its
name follows. The case of letters does not count, except in names of syllables and unified
ideographs. Names of sequences of characters are not among them.
-/

namespace Intake

/-!
## Other names of characters

Names beside the first one: of control characters, which have no first one, abbreviations, and names
that put a mistaken one right.
-/

/-- The other names, in rounds by their code points. -/
def otherNames : List String :=
  ["@0;0NULL;0START OF HEADING;2TEXT;0END OF TEXT;2TRANSMISSION;0ENQUIRY;0ACKNOWLEDGE;0ALERT",
   "0BACKSPACE;0CHARACTER TABULATION;0LINE FEED;1TABULATION;0FORM FEED;0CARRIAGE RETURN",
   "0SHIFT OUT;1IN;0DATA LINK ESCAPE;0DEVICE CONTROL ONE;2TWO;2THREE;2FOUR;0NEGATIVE ACKNOWLEDGE",
   "0SYNCHRONOUS IDLE;0END OF TRANSMISSION BLOCK;0CANCEL;0END OF MEDIUM;0SUBSTITUTE;0ESCAPE",
   "0INFORMATION SEPARATOR FOUR;2THREE;2TWO;2ONE;0SP;@127;0DELETE;0PADDING CHARACTER",
   "0HIGH OCTET PRESET;0BREAK PERMITTED HERE;0NO BREAK HERE;0INDEX;0NEXT LINE",
   "0START OF SELECTED AREA;0END OF SELECTED AREA;0CHARACTER TABULATION SET;2WITH JUSTIFICATION",
   "0LINE TABULATION SET;0PARTIAL LINE FORWARD;2BACKWARD;0REVERSE LINE FEED;0SINGLE SHIFT TWO",
   "2THREE;0DEVICE CONTROL STRING;0PRIVATE USE ONE;2TWO;0SET TRANSMIT STATE;0CANCEL CHARACTER",
   "0MESSAGE WAITING;0START OF GUARDED AREA;0END OF GUARDED AREA;0START OF STRING",
   "0SINGLE GRAPHIC CHARACTER INTRODUCER;1CHARACTER INTRODUCER;0CONTROL SEQUENCE INTRODUCER",
   "0STRING TERMINATOR;0OPERATING SYSTEM COMMAND;0PRIVACY MESSAGE;0APPLICATION PROGRAM COMMAND",
   "0NBSP;@173;0SHY;@418;0LATIN CAPITAL LETTER GHA;1SMALL LETTER GHA;@847;0CGJ;@1564;0ALM;@1801",
   "0SYRIAC SUBLINEAR COLON SKEWED LEFT;@3294;0KANNADA LETTER LLLA;@3741;0LAO LETTER FO FON;@3743",
   "3FAY;@3747;2RO;@3749;2LO;@4048;0TIBETAN MARK BKA- SHOG GI MGO RGYAN;@4588",
   "0HANGUL JONGSEONG YESIEUNG-KIYEOK;2YESIEUNG-SSANGKIYEOK;2SSANGYESIEUNG;2YESIEUNG-KHIEUKH",
   "@6155;0FVS1;0FVS2;0FVS3;0MVS;0FVS4;@8203;0ZWSP;0ZWNJ;0ZWJ;0LRM;0RLM;@8234;0LRE;0RLE;0PDF;0LRO",
   "0RLO;0NNBSP;@8287;0MMSP;0WJ;@8294;0LRI;0RLI;0FSI;0PDI;@8472;0WEIERSTRASS ELLIPTIC FUNCTION",
   "@9288;0MICR ON US SYMBOL;1DASH SYMBOL;@11130",
   "0LEFTWARDS TRIANGLE-HEADED ARROW WITH DOUBLE VERTICAL STROKE;@11132",
   "0RIGHTWARDS TRIANGLE-HEADED ARROW WITH DOUBLE VERTICAL STROKE;@40981",
   "0YI SYLLABLE ITERATION MARK;@43630;0MYANMAR LETTER KHAMTI LLA;@65024;0VS1;0VS2;0VS3;0VS4;0VS5",
   "0VS6;0VS7;0VS8;0VS9;0VS10;0VS11;0VS12;0VS13;0VS14;0VS15;0VS16;@65048",
   "0PRESENTATION FORM FOR VERTICAL RIGHT WHITE LENTICULAR BRACKET;@65279;0BYTE ORDER MARK;@74452",
   "0CUNEIFORM SIGN NU11 TENU;3OVER NU11 BUR OVER BUR;@93782;0MEDEFAIDRIN CAPITAL LETTER H;3NG",
   "@93814;1SMALL LETTER H;3NG;@110593;0HENTAIGANA LETTER E-1;@118981",
   "0BYZANTINE MUSICAL SYMBOL FTHORA SKLIRON CHROMA VASIS;@917760;0VS17;0VS18;0VS19;0VS20;0VS21",
   "0VS22;0VS23;0VS24;0VS25;0VS26;0VS27;0VS28;0VS29;0VS30;0VS31;0VS32;0VS33;0VS34;0VS35;0VS36",
   "0VS37;0VS38;0VS39;0VS40;0VS41;0VS42;0VS43;0VS44;0VS45;0VS46;0VS47;0VS48;0VS49;0VS50;0VS51",
   "0VS52;0VS53;0VS54;0VS55;0VS56;0VS57;0VS58;0VS59;0VS60;0VS61;0VS62;0VS63;0VS64;0VS65;0VS66",
   "0VS67;0VS68;0VS69;0VS70;0VS71;0VS72;0VS73;0VS74;0VS75;0VS76;0VS77;0VS78;0VS79;0VS80;0VS81",
   "0VS82;0VS83;0VS84;0VS85;0VS86;0VS87;0VS88;0VS89;0VS90;0VS91;0VS92;0VS93;0VS94;0VS95;0VS96",
   "0VS97;0VS98;0VS99;0VS100;0VS101;0VS102;0VS103;0VS104;0VS105;0VS106;0VS107;0VS108;0VS109",
   "0VS110;0VS111;0VS112;0VS113;0VS114;0VS115;0VS116;0VS117;0VS118;0VS119;0VS120;0VS121;0VS122",
   "0VS123;0VS124;0VS125;0VS126;0VS127;0VS128;0VS129;0VS130;0VS131;0VS132;0VS133;0VS134;0VS135",
   "0VS136;0VS137;0VS138;0VS139;0VS140;0VS141;0VS142;0VS143;0VS144;0VS145;0VS146;0VS147;0VS148",
   "0VS149;0VS150;0VS151;0VS152;0VS153;0VS154;0VS155;0VS156;0VS157;0VS158;0VS159;0VS160;0VS161",
   "0VS162;0VS163;0VS164;0VS165;0VS166;0VS167;0VS168;0VS169;0VS170;0VS171;0VS172;0VS173;0VS174",
   "0VS175;0VS176;0VS177;0VS178;0VS179;0VS180;0VS181;0VS182;0VS183;0VS184;0VS185;0VS186;0VS187",
   "0VS188;0VS189;0VS190;0VS191;0VS192;0VS193;0VS194;0VS195;0VS196;0VS197;0VS198;0VS199;0VS200",
   "0VS201;0VS202;0VS203;0VS204;0VS205;0VS206;0VS207;0VS208;0VS209;0VS210;0VS211;0VS212;0VS213",
   "0VS214;0VS215;0VS216;0VS217;0VS218;0VS219;0VS220;0VS221;0VS222;0VS223;0VS224;0VS225;0VS226",
   "0VS227;0VS228;0VS229;0VS230;0VS231;0VS232;0VS233;0VS234;0VS235;0VS236;0VS237;0VS238;0VS239",
   "0VS240;0VS241;0VS242;0VS243;0VS244;0VS245;0VS246;0VS247;0VS248;0VS249;0VS250;0VS251;0VS252",
   "0VS253;0VS254;0VS255;0VS256;@0;0NUL;0SOH;0STX;0ETX;0EOT;0ENQ;0ACK;0BEL;0BS",
   "0HORIZONTAL TABULATION;0NEW LINE;0VERTICAL TABULATION;0FF;0CR;0LOCKING-SHIFT ONE;1ZERO;0DLE",
   "0DC1;0DC2;0DC3;0DC4;0NAK;0SYN;0ETB;0CAN;0EOM;0SUB;0ESC;0FILE SEPARATOR;0GROUP SEPARATOR",
   "0RECORD SEPARATOR;0UNIT SEPARATOR;@127;0DEL;0PAD;0HOP;0BPH;0NBH;0IND;0NEL;0SSA;0ESA",
   "0HORIZONTAL TABULATION SET;2WITH JUSTIFICATION;0VERTICAL TABULATION SET;0PARTIAL LINE DOWN",
   "2UP;0REVERSE INDEX;0SINGLE-SHIFT-2;0SINGLE-SHIFT-3;0DCS;0PRIVATE USE-1;1USE-2;0STS;0CCH;0MW",
   "0START OF PROTECTED AREA;0END OF PROTECTED AREA;0SOS;0SGC;0SCI;0CSI;0ST;0OSC;0PM;0APC;@65279",
   "0BOM;@9;0HT;0END OF LINE;0VT;@14;0SO;0SI;@28;0FS;0GS;0RS;0US;@136;0HTS;0HTJ;0VTS;0PLD;0PLU",
   "0RI;0SS2;0SS3;@145;0PU1;0PU2;@150;0SPA;0EPA;@65279;0ZWNBSP;@9;0TAB;0EOL;@10;0LF;@10;0NL"]

/-!
## Names of characters that follow rules

A syllable of the Korean script is named by its sounds: an initial, a vowel and a final. An ideograph
is named by its code point. Main statement: a name without sounds is no syllable.
-/

/-- The initial sounds of syllables, in order. -/
def initialSounds : List String :=
  ["G", "GG", "N", "D", "DD", "R", "M", "B", "BB", "S", "SS", "", "J", "JJ", "C", "K", "T", "P",
   "H"]

/-- The vowels of syllables, in order. -/
def vowelSounds : List String :=
  ["A", "AE", "YA", "YAE", "EO", "E", "YEO", "YE", "O", "WA", "WAE", "OE", "YO", "U", "WEO", "WE",
   "WI", "YU", "EU", "YI", "I"]

/-- The final sounds of syllables, in order. -/
def finalSounds : List String :=
  ["", "G", "GG", "GS", "N", "NJ", "NH", "D", "L", "LG", "LM", "LB", "LS", "LT", "LP", "LH", "M",
   "B", "BS", "S", "SS", "NG", "J", "C", "K", "T", "P", "H"]

/-- The longest of several sounds that a text starts with: its index, and what follows it. -/
def longestSound? (sounds : List String) (s : List Char) : Option (Nat × List Char) :=
  let fitting := sounds.zipIdx.filterMap fun sound =>
    (afterStart? sound.1.toList s).map fun rest => (sound.2, rest)
  fitting.foldl (fun best sound =>
    match best with
    | none => some sound
    | some other => if sound.2.length < other.2.length then some sound else best) none

/-- The code point of the syllable that sounds make, each as long as it can be. -/
def syllableOf? (sounds : List Char) : Option Nat := do
  let (initial, rest) ← longestSound? initialSounds sounds
  let (vowel, rest) ← longestSound? vowelSounds rest
  let (final, rest) ← longestSound? finalSounds rest
  if rest.isEmpty then some (0xAC00 + (initial * 21 + vowel) * 28 + final) else none

/-- Characters whose names are a common start and the code point. -/
structure NumberedNames where
  /-- The common start. -/
  start : String
  /-- How many hexadecimal digits the code point has. -/
  width : Nat
  /-- The first code point. -/
  first : Nat
  /-- The last code point. -/
  last : Nat

/-- The code point in a name with a number; the digits above nine are capital letters. -/
def NumberedNames.code? (names : NumberedNames) (s : List Char) : Option Nat := do
  let digits ← afterStart? names.start.toList s
  let values ← digits.mapM fun c => if c.isLower then none else hexValue? c
  let code := values.foldl (fun n value => n * 16 + value) 0
  if digits.length = names.width ∧ names.first ≤ code ∧ code ≤ names.last then some code else none

/-- The unified ideographs. Their code points may be written with a zero in front. -/
def unifiedIdeographs : List NumberedNames :=
  [(4, 0x3400, 0x4DBF), (4, 0x4E00, 0x9FFF), (5, 0x3400, 0x4DBF), (5, 0x4E00, 0x9FFF),
   (5, 0x20000, 0x2A6DF), (5, 0x2A700, 0x2B738), (5, 0x2B740, 0x2B81D), (5, 0x2B820, 0x2CEA1),
   (5, 0x2CEB0, 0x2EBE0), (5, 0x30000, 0x3134A)].map fun range =>
    ⟨"CJK UNIFIED IDEOGRAPH-", range.1, range.2.1, range.2.2⟩

/-- Other characters that are named by their code points. -/
def numberedCharacters : List NumberedNames :=
  [⟨"CJK COMPATIBILITY IDEOGRAPH-", 4, 0xF900, 0xFA6D⟩,
   ⟨"CJK COMPATIBILITY IDEOGRAPH-", 4, 0xFA70, 0xFAD9⟩,
   ⟨"CJK COMPATIBILITY IDEOGRAPH-", 5, 0x2F800, 0x2FA1D⟩,
   ⟨"KHITAN SMALL SCRIPT CHARACTER-", 5, 0x18B00, 0x18CD5⟩,
   ⟨"NUSHU CHARACTER-", 5, 0x1B170, 0x1B2FB⟩]

/-- A name without sounds is no syllable. -/
theorem syllableOf?_nil : syllableOf? [] = none := by decide

/-! ## Characters by their names -/

/-- The tables of the names that follow no rule. -/
def nameTables : List (List String) :=
  [otherNames, alphabetNames, southernNames, symbolNames, signNames, easternNames, ancientNames,
   notationNames, pictographNames]

/-- The code point of the character that has a name. -/
def characterNamed? (name : List Char) : Option Nat :=
  let capital := name.map Char.toUpper
  let words := NameEntry.wordsOf capital
  ((afterStart? "HANGUL SYLLABLE ".toList name).bind syllableOf?).orElse fun _ =>
    (unifiedIdeographs.findSome? fun names => names.code? name).orElse fun _ =>
      (numberedCharacters.findSome? fun names => names.code? capital).orElse fun _ =>
        nameTables.findSome? fun rows => codeNamed? rows words

end Intake
