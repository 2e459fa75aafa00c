import TaskQueue.Text.Table

/-!
# Canonical combining classes

The canonical combining class of each code point, by the data of Unicode 17.0.  A
character of class 0 is a starter; the others are marks that attach to the starter before
them, and canonical ordering sorts each run of them by class.  Class 9 is that of the
viramas, which the joiner rules of IDNA look for.
-/

namespace TaskQueue.Text

/-- The ranges of code points whose class is not 0, as table text: each record holds the
distance from the start of the range before, the length of the range less one, and the
class. -/
def combiningClassText : String :=
  String.join [
    "300.14.e6 15.0.e8 1.3.dc 4.0.e8 1.0.d8 1.4.dc 5.1.ca 2.3.dc 4.1.ca 2.a.dc b.4.1 5.3.dc ",
    "4.7.e6 8.0.f0 1.0.e6 1.2.dc 3.2.e6 3.1.dc 3.2.e6 3.3.dc 4.0.e6 1.0.e8 1.1.dc 2.0.e6 ",
    "1.0.e9 1.1.ea 2.0.e9 1.1.ea 2.0.e9 1.c.e6 120.4.e6 10e.0.dc 1.3.e6 4.0.dc 1.2.e6 3.0.de ",
    "1.0.dc 1.5.e6 6.5.dc 6.1.e6 2.0.dc 1.1.e6 2.0.de 1.0.e4 1.0.e6 1.0.a 1.0.b 1.0.c 1.0.d ",
    "1.0.e 1.0.f 1.0.10 1.0.11 1.0.12 1.1.13 2.0.14 1.0.15 1.0.16 2.0.17 2.0.18 1.0.19 2.0.e6 ",
    "1.0.dc 2.0.12 49.7.e6 8.0.1e 1.0.1f 1.0.20 31.0.1b 1.0.1c 1.0.1d 1.0.1e 1.0.1f 1.0.20 ",
    "1.0.21 1.0.22 1.1.e6 2.1.dc 2.4.e6 5.0.dc 1.1.e6 2.0.dc 11.0.23 66.6.e6 9.3.e6 4.0.dc ",
    "1.0.e6 3.1.e6 3.0.dc 1.1.e6 2.0.dc 24.0.24 1f.0.e6 1.0.dc 1.1.e6 2.0.dc 1.1.e6 2.2.dc ",
    "3.0.e6 1.1.dc 2.0.e6 1.0.dc 1.2.e6 3.0.dc 1.0.e6 1.0.dc 1.0.e6 1.0.dc 1.0.e6 1.0.dc ",
    "1.1.e6 a2.6.e6 7.0.dc 1.0.e6 a.0.dc 19.3.e6 5.8.e6 a.2.e6 4.4.e6 30.2.dc 3e.1.e6 2.2.dc ",
    "3.3.e6 2e.4.e6 5.4.dc 5.d.e6 f.0.dc 1.1.e6 2.0.dc 1.1.e6 2.0.dc 1.2.e6 3.2.dc 3.0.1b ",
    "1.0.1c 1.0.1d 1.2.e6 3.0.dc 1.1.e6 2.1.dc 2.4.e6 41.0.7 11.0.9 4.0.e6 1.0.dc 1.1.e6 ",
    "69.0.7 11.0.9 31.0.e6 3e.0.7 11.0.9 6f.0.7 11.0.9 6f.0.7 11.0.9 80.0.9 6f.0.7 11.0.9 ",
    "8.0.54 1.0.5b 66.0.7 11.0.9 6e.1.9 12.0.9 7d.0.9 6e.1.67 2.0.9 e.3.6b 70.1.76 2.0.9 ",
    "e.3.7a 50.1.dc 1d.0.dc 2.0.dc 2.0.d8 38.0.81 1.0.82 2.0.84 6.3.82 6.0.82 2.1.e6 2.0.9 ",
    "2.1.e6 40.0.dc 71.0.7 2.1.9 54.0.dc 2d0.2.e6 3b7.1.9 20.0.9 9e.0.9 b.0.e6 cc.0.e4 ",
    "90.0.de 1.0.e6 1.0.dc dc.0.e6 1.0.dc 48.0.9 15.7.e6 a.0.dc 31.4.e6 5.5.dc 6.1.e6 2.0.dc ",
    "2.1.dc 2.1.e6 2.1.dc 2.4.e6 5.0.dc 1.11.e6 12.0.dc 3.5.e6 6.0.dc 1.3.e6 4.0.ea 49.0.7 ",
    "10.0.9 27.0.e6 1.0.dc 1.6.e6 3d.1.9 3c.0.7 c.1.9 45.0.7 99.2.e6 4.0.1 1.4.dc 5.1.e6 ",
    "2.3.dc 4.0.e6 2.6.1 b.0.dc 7.0.e6 4.1.e6 c8.1.e6 2.0.dc 1.6.e6 7.0.dc 1.1.e6 2.0.ea ",
    "1.0.d6 1.0.dc 1.0.ca 1.24.e6 25.0.e8 1.1.e4 2.0.dc 1.0.da 1.0.e6 1.0.e9 1.0.dc 1.0.e6 ",
    "1.0.dc 2d1.1.e6 2.1.1 2.3.e6 4.2.1 3.1.e6 6.0.e6 4.1.1 2.0.e6 1.0.dc 1.0.e6 1.1.1 2.3.dc ",
    "4.0.e6 bff.2.e6 90.0.9 61.1f.e6 24a.0.da 1.0.e4 1.0.e8 1.0.de 1.1.e0 6b.1.8 75d6.0.e6 ",
    "5.9.e6 2a.1.e6 52.1.e6 116.0.9 26.0.9 98.0.9 1c.11.e6 4b.2.dc 28.0.9 60.0.7 d.0.9 ",
    "f0.0.e6 2.1.e6 2.0.dc 3.1.e6 7.1.e6 3.0.e6 35.0.9 f7.0.9 4f31.0.1a 302.6.e6 7.6.dc ",
    "7.1.e6 3cf.0.dc e3.0.dc 96.4.e6 697.0.dc 2.0.e6 29.0.e6 1.0.1 1.0.dc 5.0.9 a6.0.e6 ",
    "1.0.dc 23e.3.e6 45.4.e6 142.1.e6 4f.1.dc 3.2.dc 49.1.dc 2.2.e6 3.0.dc 1.0.e6 1.3.dc ",
    "35.0.e6 1.0.dc 1.0.e6 1.0.dc c1.0.9 2a.0.9 f.0.9 3a.0.9 1.0.7 46.2.e6 33.1.9 40.0.7 ",
    "4d.0.9 a.0.7 6b.0.9 1.0.7 b3.0.7 1.0.9 51.1.7 12.0.9 19.6.e6 a.4.e6 5e.2.9 74.0.9 4.0.7 ",
    "18.0.e6 64.0.9 1.0.7 fc.0.9 1.0.7 7f.0.9 77.0.9 1.0.7 74.0.9 10e.0.9 1.0.7 103.1.9 6.0.7 ",
    "9d.0.9 54.0.9 13.0.9 52.0.9 1a6.0.9 103.0.7 2.1.9 53.0.9 1aa.1.9 41ee.0.9 9c1.4.1 ",
    "40.6.e6 4c0.1.6 4cae.0.1 14c7.1.d8 2.2.1 6.0.e2 1.4.d8 d.7.dc a.4.e6 5.1.dc 20.3.e6 ",
    "98.2.e6 dbe.6.e6 8.10.e6 13.6.e6 8.1.e6 3.4.e6 69.0.e6 a1.6.e6 17e.0.e6 3e.3.e6 200.1.e8 ",
    "2.0.dc 1.0.e6 ff.0.e6 1.0.dc f4.0.e6 3.0.e6 8.1.e6 7.0.e6 1db.6.dc 74.5.e6 6.0.7"]

/-- The ranges of code points whose class is not 0: first, last and class, in increasing
order. -/
def combiningClassRanges : Array (Nat × Nat × Nat) :=
  ((Table.withStarts (Table.records combiningClassText)).map fun (start, r) =>
    (start, start + r.numbers.getD 1 0, r.numbers.getD 2 0)).toArray

/-- The canonical combining class of a code point. -/
def combiningClass (c : Nat) : Nat :=
  match Table.lastAtMost? combiningClassRanges (·.1) c with
  | some (_, last, v) => if c ≤ last then v else 0
  | none => 0

end TaskQueue.Text
