import TaskQueue.Text.Table

/-!
# Joining types

How each code point joins its neighbours in cursive scripts, by the data of Unicode 17.0:
the property Joining_Type, in which marks and format characters are transparent.  The
joiner rules of IDNA read it around a zero width non-joiner.
-/

namespace TaskQueue.Text

/-- The joining type of a character. -/
inductive JoiningType where
  | nonJoining
  | transparent
  | leftJoining
  | rightJoining
  | dualJoining
  | joinCausing
  deriving DecidableEq, Repr

/-- The type a table tag stands for. -/
def JoiningType.ofTag : Option Char → JoiningType
  | some 'T' => .transparent
  | some 'L' => .leftJoining
  | some 'R' => .rightJoining
  | some 'D' => .dualJoining
  | some 'C' => .joinCausing
  | _ => .nonJoining

/-- The types as table text: each record is a tag for the type and the distance from the
start of the range before; a range runs up to the next. -/
def joiningTypeText : String :=
  String.join [
    "Tad U1 T252 U70 T113 U7 T107 U2d T1 U1 T1 U2 T1 U2 T1 U1 T48 Ub T1 U1 D3 U1 R1 D4 R1 D1 ",
    "R1 D1 R5 D4 Cd D1 R7 D1 T2 U15 De T2 R1 U3 R1 D3 R10 D12 R26 D1 R2 D9 R1 D1 R1 D1 R2 U2 ",
    "R1 T1 U7 T2 U6 T2 U2 T1 R4 U2 Da U3 D2 U1 Tf R1 T1 D1 R3 D5 R4 D1 R9 D1 R1 D1 R1 D1 R2 ",
    "T1 U1b R2 D1 Rb D3 Rf D2 R4 D1 R1 D2 R3 D2 U6 T26 Ub D19 T21 U9 C6 U1 T2 U1 T18 U4 T1 U9 ",
    "T1 U3 T1 U5 R12 D1 R5 D2 R1 D1 Ra D1 R1 T3 U3 D4 U1 D1 U4 R1 D1 R1 U2 R5 C13 D3 U1 D2 R5 ",
    "D1 U1 T7 D9 Ra U3 R1 D1 R2 D2 R6 D1 Uf T1 U18 T1 U20 T37 U1 T1 U1 T4 U8 T4 U1 T3 U7 Ta ",
    "U2 T1d U1 T3a U1 T4 U4 T8 U1 T14 U2 T1a U1 T2 U2 T39 U1 T4 U2 T4 U2 T2 U3 T3 U1 T1e U2 ",
    "T3 U1 Tb U2 T39 U1 T4 U5 T1 U2 T4 U1 T14 U2 T16 U6 T1 U1 T3a U1 T2 U1 T1 U4 T8 U1 T7 U2 ",
    "Tb U2 T1e U1 T3d U1 Tc U1 T32 U1 T3 U1 T37 U1 T1 U3 T5 U3 T1 U4 T7 U2 Tb U2 T1d U1 T3a ",
    "U1 T2 U1 T6 U1 T5 U2 T14 U2 T1c U2 T39 U2 T4 U4 T8 U1 T14 U2 T1d U1 T48 U1 T7 U3 T1 U1 ",
    "T5a U1 T2 U7 Tc U8 T62 U1 T2 U9 Tb U7 T49 U2 T1b U1 T1 U1 T1 U1 T37 Ue T1 U5 T1 U2 T5 Ub ",
    "T1 U24 T9 U1 T66 U4 T1 U6 T1 U2 T2 U2 T19 U2 T4 U3 T10 U4 Td U1 T2 U2 T6 U1 Tf U1 T2bf ",
    "U3 T3b2 U3 T1d U2 T1e U2 T1e U2 T40 U2 T1 U7 T8 U1 T2 Ub T9 U1 D29 U1 C2 T1 U3 T1 U1 D10 ",
    "U59 Tc D2 T22 D1 U1 T75 U3 T4 U2 T9 U1 T6 U3 Tdb U2 T2 U1 T3a U1 T1 U7 T1 U1 T1 U1 T2 U8 ",
    "T6 Ua T2 U1 T30 U2e T2 Uc T14 U4 T30 U1 T1 U5 T1 U1 T5 U1 T28 U9 Tc U2 T20 U4 T2 U2 T1 ",
    "U3 T38 U1 T1 U2 T3 U1 T1 U3 T3a U8 T2 U2 T98 U3 T1 Ud T1 U7 T4 U1 T6 U1 T3 U2 Tc6 U40 ",
    "T20b U1 C1 T1 U2 T1a U5 T31 U5 T5 U6 T60 U21 Tbfe U3 T8d U1 T60 U20 T22a U4 T6b U2 T75d4 ",
    "U4 T1 Ua T20 U2 T50 U2 T110 U1 T3 U1 T4 U1 T19 U2 T5 U1 D13 L32 U1 T51 U2 T1a U12 Td U1 ",
    "T26 U8 T19 Ub T2e U3 T30 U1 T2 U4 T2 U2 T27 U1 T43 U6 T2 U2 T2 U2 Tc U1 T8 U1 T2f U1 T33 ",
    "U1 T1 U3 T2 U2 T5 U2 T1 U1 T2a U2 T8 U1 Tee U1 T2 U1 T4 U1 T4f30 U1 T2e1 U10 T10 U10 Tcf ",
    "U1 Tf9 U3 T201 U1 Te2 U1 T95 U5 T686 U3 T1 U2 T5 U4 T28 U3 T4 U1 D80 R5 U1 R1 U1 R1 U2 ",
    "L2 R1 D5 L4 D1 R5 D1 R3 U1 R2 T1 U2 D4 R4 U1 D90 R1 D1 R1 D3 R3 D1 R2 D1 R1 D2 R1 U1 R17 ",
    "D4 U2 L151 D1 R21 D1 T1 U4 T41 U5 T13d U2 R15 D1 U2 D1 U2 T32 U6 D30 R3 D1 U11 T1 Db R3 ",
    "U1 D1b R4 D2 Tc U4 D2a U1 D1 R2 U3 D1 R1 D2 R2 D1 U2 D1 R1 D2 U1 R4 D1 L1 U1 T35 U1 T36 ",
    "Uf T29 U1 T2 U2 Ta U3 T31 U4 T2 U2 T7 U1 T3d U3 T24 U5 T1 U8 T3e U1 Tc U2 T34 U9 Ta U4 ",
    "T2 U1 T5f U3 T2 U1 T1 U2 T6 U1 T2 U1 T9d U1 T3 U8 T15 U2 T39 U2 T3 U1 T25 U7 T3 U5 T46 ",
    "U6 Td U1 T1 U1 T1 U1 Te U2 T55 U8 T2 U3 T1 U1 T17 U1 T54 U6 T1 U1 T4 U2 T1 U2 Tee U4 T6 ",
    "U2 T1 U2 T1b U2 T55 U8 T2 U1 T1 U2 T6a U1 T1 U1 T2 U6 T1 U1 T65 U1 T1 U1 T2 U4 T1 U5 ",
    "T103 U9 T1 U2 T100 U2 T1 U1 T4 U1 T90 U4 T2 U2 T4 U1 T20 Ua T28 U6 T2 U4 T8 U1 T9 U6 T2 ",
    "U3 T2e Ud T1 U2 Tc6 U1 T1 U3 T1 U1 Tc9 U7 T1 U6 T1 U1 T52 U16 T2 U7 T1 U2 T1 U2 T7a U6 ",
    "T3 U1 T1 U2 T1 U7 T1 U1 T48 U2 T3 U1 T1 U1 T15b U2 Tb U2 T34 U5 T5 U1 T1 U1 T17 U1 T14d5 ",
    "U11 T6 Uf T2cc8 Uc T3 U3 T9c0 U5 T3b U7 T418 U1 T3f U4 T51 U1 T4cb8 U2 T1 U4 T125c U2e ",
    "T2 U17 T220 U3 T9 U10 T2 U7 T1e U4 T94 U3 T7bb U37 T4 U32 T8 U1 Te U1 T16 U5 T1 Uf T550 ",
    "U7 T1 U11 T2 U7 T1 U2 T1 U5 T64 U1 Ta0 U7 T177 U1 T3d U4 T1fc U4 Tfe U2 Tf3 U1 T2 U1 T7 ",
    "U2 T5 U1 T1da U7 D29 T44 U8 Tc16b5 U1 T1e U60 T80 Uf0"]

/-- Where each range of one type starts, and the type. -/
def joiningTypeRanges : Array (Nat × JoiningType) :=
  ((Table.withStarts (Table.records joiningTypeText)).map fun (start, r) =>
    (start, JoiningType.ofTag r.tag)).toArray

/-- The joining type of a character. -/
def joiningType (c : Char) : JoiningType :=
  match Table.lastAtMost? joiningTypeRanges (·.1) c.toNat with
  | some (_, k) => k
  | none => .nonJoining

end TaskQueue.Text
