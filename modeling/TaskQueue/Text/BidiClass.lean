import TaskQueue.Text.Table

/-!
# Bidirectional classes

The bidirectional class of each code point, by the data of Unicode 17.0, as far as the
bidi rule for domain names tells classes apart.  The classes of paragraph and segment
separators, white space and the explicit embedding, override and isolate controls are one
class `other` here: no label may hold them.
-/

namespace TaskQueue.Text

/-- The bidirectional classes that the bidi rule for labels tells apart. -/
inductive BidiClass where
  | leftToRight
  | rightToLeft
  | arabicLetter
  | europeanNumber
  | europeanSeparator
  | europeanTerminator
  | arabicNumber
  | commonSeparator
  | nonspacingMark
  | boundaryNeutral
  | otherNeutral
  | other
  deriving DecidableEq, Repr

/-- The class a table tag stands for. -/
def BidiClass.ofTag : Option Char → BidiClass
  | some 'L' => .leftToRight
  | some 'R' => .rightToLeft
  | some 'A' => .arabicLetter
  | some 'E' => .europeanNumber
  | some 'S' => .europeanSeparator
  | some 'T' => .europeanTerminator
  | some 'N' => .arabicNumber
  | some 'C' => .commonSeparator
  | some 'M' => .nonspacingMark
  | some 'B' => .boundaryNeutral
  | some 'O' => .otherNeutral
  | _ => .other

/-- The classes as table text: each record is a tag for the class and the distance from
the start of the range before.  A range runs up to the next; code points that are not
assigned take the class of the range they fall in. -/
def bidiClassText : String :=
  String.join [
    "B0 X9 B5 Xe O5 T2 O3 S5 C1 S1 C1 E2 Ca O1 L6 O1a L6 O1a B4 X6 B1 C1a O1 T1 O4 L4 O1 B2 ",
    "O1 T2 E2 O2 L1 O1 E3 L1 O1 L5 O17 L1 O1f L1 O1c1 L2 O7 Le O2 Le O5 L9 O1 M11 L70 O4 L2 ",
    "O8 L1 O5 L2 O1 L1 O6e L1 M8c L7 O100 T5 M2 R2d M1 R1 M1 R2 M1 R2 M1 R9 N30 O6 A2 T1 A2 ",
    "C1 A1 O1 M2 Ab M30 N15 Ta N1 A2 M3 A1 M65 N7 O1 M1 A6 M2 O2 M1 A4 E2 Aa M17 A1 M1e A1d ",
    "M59 Ab Rf M2b R9 O2 R4 M3 R1 M18 R4 M1 R9 M1 R3 M1 R7 M29 R5 A2 N30 M7 A9 M2a N18 M1 L20 ",
    "M37 L1 M1 L1 M4 L8 M4 L1 M3 L7 Ma L2 M1d L1 M3a L1 M4 L6 M6 L1 M14 L4 Tc L2 T7 L1 M2 L5 ",
    "M39 L2 M3 L18 M17 L2 M3 L1 Mb L2 M39 L1 M4 L8 M4 L3 M12 L4 Tb L8 M1 L8 M3a L1 M2 L1 M1 ",
    "L6 M6 La Mb L4 M1c L1 M3d L1 Mc L3 O23 T6 O1 M6 L1 M3 L1 M37 L1 M1 L3 M5 L12 Ma L4 O12 ",
    "L7 M2 L1 M3a L1 Mf L9 Md L4 M1a L2 M39 L2 M4 L5 M7 L1 M14 L4 M1b L1 M48 L5 M3 L6 M59 L1 ",
    "M2 Tb L1 M7 L8 M62 L1 M2 L9 Mb L8 M48 L2 M1b L1 M1 L1 M1 O1 L4 M33 Le M1 L5 M1 L2 M5 L31 ",
    "M8 L1 M66 L4 M1 L6 M1 L2 M2 L2 M19 L2 M4 L3 M10 L4 Md L1 M2 L2 M6 L1 Mf L1 M2bf L3 O30 ",
    "L10 O60 L1 X27f L1 O1a L5 M72 L3 M1d L2 M1e Le M12 Le M34 L2 M1 L7 M8 L1 M2 Lb T7 L1 M1 ",
    "L3 O10 M1b B3 M1 L1 M75 L2 M22 L1 M76 L3 M4 L2 M9 L1 M6 O7 L6 O98 L22 M17 L2 M2 L3 M38 ",
    "L1 M1 L9 M1 L1 M2 L8 M6 Ld M30 L54 M30 L1 M1 L5 M1 L1 M5 L1 Ob L2 M1b L9 Ob M1 L2 M20 L4 ",
    "M2 L2 M1 L3 M38 L1 M1 L2 M3 L1 M1 L3 M3a L8 M2 L5 M95 L3 M1 Ld M1 L7 M4 L1 M6 L1 M3 L2 ",
    "Mc6 L40 O1bd L1 O1 L3 Ob L3 Od L3 Od L5 Ob X3 Bb L3 R1 O1 X18 C7 T1 O5 Cf O1 X1a B1 X6 ",
    "B4 E6 L1 E3 S6 O2 L3 E1 Sa O2 L4 T10 M30 O30 L2 O1 L4 O1 L2 Oa L1 O1 L3 O5 L6 O1 L1 O1 ",
    "L1 O1 L1 T4 L1 Ob L2 O4 L5 O5 L4 O2 L10 O29 S89 T1 O1 L122 O45 L1a O1 Ef2 L14 O4e L1c2 ",
    "O1 L153 O100 L300 Oe5 L6 M4 L3 O7 L7 M7f L1 M60 O20 X200 O1 L4 O3 L19 M9 L4 O2 L1 O5 L2 ",
    "O5 L4 M58 O2 L2 O3 L1 O5a L1 Oc4 L30 O2d L3 O30 L10 O1c L3 O32 Lf Oc L4 Oa7 L4 O63 L2 ",
    "O1f L1 O19c0 L40 O5690 L40 O13d L3 M5f O4 M1 Oa L2 M1e L2 M50 L2 Oe L22 O66 L1 M79 L1 M3 ",
    "L1 M4 L1 M19 L2 O1 M4 L4 T8 L8 O34 Lc M44 La M12 L12 Md L1 M26 L8 M19 Lb M2e L3 M30 L1 ",
    "M2 L4 M2 L2 M27 L1 M43 L6 M2 L2 M2 Lb M3 L1 M8 L1 M2f L1 M33 L1 M1 L3 M2 L2 M5 L2 M1 L1 ",
    "M2a L2 M8 Lb O69 L6 M75 L1 M2 L1 M4 L3 R4f2d M1 R1 Sa R1 A26 O1ee A12 O7f A21 Od M3 O10 ",
    "M10 O10 C20 O1 C1 O2 C1 O1 T9 O1 S2 O2 T5 O2 A5 B8f O2 T2 O3 S5 C1 S1 C1 E2 Ca O1 L6 O1a ",
    "L6 O1a Lb T7a O2 T3 O3 L18 O101 L1 O3e L4d O3 L40 M2d L83 M60 E1 L1f M76 La R480 O11f R1 ",
    "Me1 Rf M28 R8 Ma5 R6 O4e R7 A1c0 M24 Nc R10 M29 R5 Nf2 R20 M2b R2 A15 M38 R6 A30 M16 Ab ",
    "R1f M12 R4 L7a M1 L1 M36 Lf Ob L14 Ma L1 M2 L2 Ma L3 M31 L4 M2 L2 M7 Lb M33 L3 M24 L5 M1 ",
    "L9 M3d L1 Mc L2 M34 L9 Ma L4 M2 L1 M5f L3 M2 L1 M1 L2 M6 L1 M2 L3f M5f L1 M3 Ld M10 L2 ",
    "M39 L2 M3 L1 M25 L1a M3b L7 Mc L1 M1 L1 M1 L1 O1 Md L1f M38 L8 M2 L3 M1 L1 M17 L1 M54 L6 ",
    "M1 L1 M4 L2 M1 L2 Mee L6 M4 L2 M1 L2 M1b L24 M33 L8 M2 L1 M1 L2 O1f L20 M2b L1 M1 L1 M2 ",
    "L6 M1 L1 M65 L1 M1 L1 M2 L4 M1 L9 Mff L9 M1 L2 M100 L2 M1 L1 M4 L1 M90 L8 M4 L1 M20 L6 ",
    "M2 L2 M28 L6 M2 L4 M8 L9 M1 L6 M2 L3 M2e Ld M1 L2 Mc6 L1 M1 L3 M1 L1 O7a Lf M40 Le M54 ",
    "L17 M1 L7 M1 L2 M1 L4b M31 L15 M1 L9 M40 L3 M2 L1 M1 L1 M15b L2 Mb L2 M34 L8 M2 L1 M1 L1 ",
    "M17 L56 O25 T8 O4 L1e M1441 L1 M6 L19 M2cbe Lc M3 L3 M9c0 L5 M3b L7 O236 L3 M1df L1 M3f ",
    "L4 O4f L1 M1 Lc M4cad L2 B1 Of60 Lf0 Oa M206 L50 M217 L3 B9 M8 L8 M2 L7 M1e L4 O3b M59 ",
    "O3 L7b O40 L60 O37b L1 O39 L1 O39 L1 O39 L1 O39 L1 Ea L32 M200 L37 M4 L32 M8 L1 Me L1 ",
    "M16 L465 M100 L30 M5f L71 M30 L7 M177 L12 M2c L4 Tf L1d1 M1c L4 Mfe L2 Of Lc1 M23 L1 M2 ",
    "L1 M7 L2 M5 L9 R102 Md0 R30 M44 R7 A326 O27f E210 Ob L5 O1f L1 O3a L6 O3d L39 O7a E990 ",
    "Oa L406 Bc0001 Mff Lff00"]

/-- Where each range of one class starts, and the class. -/
def bidiClassRanges : Array (Nat × BidiClass) :=
  ((Table.withStarts (Table.records bidiClassText)).map fun (start, r) =>
    (start, BidiClass.ofTag r.tag)).toArray

/-- The bidirectional class of a character. -/
def bidiClass (c : Char) : BidiClass :=
  match Table.lastAtMost? bidiClassRanges (·.1) c.toNat with
  | some (_, k) => k
  | none => .leftToRight

end TaskQueue.Text
