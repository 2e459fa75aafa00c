import TaskQueue.Text.Table

/-!
# Marks

The code points of the general category Mark (nonspacing, spacing and enclosing marks),
by the data of Unicode 17.0.  A label of a domain name may not begin with one.
-/

namespace TaskQueue.Text

/-- The ranges of marks as table text: each record holds the distance from the start of
the range before and the length of the range less one. -/
def markText : String :=
  String.join [
    "300.6f 183.6 10e.2c 2e.0 2.1 3.1 3.0 49.a 3b.14 25.0 66.6 9.5 8.1 3.3 27.0 1f.1a 76.a ",
    "45.8 12.0 19.3 5.8 a.2 4.4 30.2 3e.8 33.17 19.20 57.2 4.11 13.6 11.1 1f.2 3b.0 2.6 9.1 ",
    "4.2 c.0 b.1 1c.0 3.2 3b.0 2.4 9.1 4.2 6.0 1f.1 5.0 c.2 3b.0 2.7 9.2 4.2 17.1 18.5 7.2 ",
    "3b.0 2.6 9.1 4.2 a.2 d.1 20.0 3c.4 8.2 4.3 d.0 29.4 3c.0 2.6 8.2 4.3 b.1 d.1 1f.2 3b.0 ",
    "2.6 8.2 4.3 b.1 d.1 11.0 d.3 3b.1 3.6 8.2 4.3 d.0 b.1 1f.2 49.0 5.5 7.0 2.7 1a.1 3f.0 ",
    "3.6 13.7 6a.0 3.8 14.6 50.1 1d.0 2.0 2.0 5.1 33.13 15.1 7.a c.23 2d.0 65.13 2b.3 8.2 4.2 ",
    "5.6 a.3 11.b d.0 b.3 2c3.2 3b5.3 20.2 20.1 20.1 42.1f 29.0 2e.2 4.0 76.1 24.0 77.b 10.b ",
    "e7.4 3e.9 b.1c 1f.0 31.2d 30.b 20.4 34.10 37.8 15.2 21.c 45.d 3e.13 ac.2 4.14 19.0 7.0 ",
    "3.2 c9.3f 310.20 c1f.2 90.0 61.1f 24a.5 6f.1 75d6.3 5.9 2a.1 52.1 112.0 4.0 5.0 18.4 9.0 ",
    "54.1 34.11 2c.11 1f.0 27.7 21.c 39.3 33.d 32.0 44.d 1a.0 9.1 2f.2 35.0 2.2 5.1 7.1 3.0 ",
    "2a.4 a.1 ee.7 9.1 4f32.0 2e2.f 20.f 3dd.0 e3.0 96.4 68b.2 4.1 7.3 2c.2 7.0 a6.1 23f.3 ",
    "45.4 142.1 4f.5 4c.a 3c.3 7e.2 38.e 38.0 3.1 c.3 31.a 12.0 3e.2 27.d 1e.1 2e.0 d.2 33.d ",
    "16.3 5.1 5e.b 12.0 3.0 9e.b 21.3 3b.1 3.6 9.1 4.2 c.0 b.1 4.6 a.4 48.8 a.0 3.0 2.3 5.4 ",
    "6.0 f.1 54.11 29.0 52.13 ff.6 9.8 24.1 54.10 7b.c 72.e 10f.e 104.5 7.1 4.3 5.0 2.1 8f.6 ",
    "9.6 a.0 1d.9 32.6 8.3 c.0 a.a 39.f d6.7 cf.7 9.7 5a.15 17.d 88.5 9.0 2.1 3.6 8.0 43.4 ",
    "6.1 3.4 160.3 d.1 3.0 31.6 a.4 1c.0 14e6.0 7.e 2cd7.11 9d2.4 40.6 41f.0 2.36 3e.3 55.0 ",
    "c.1 4cad.1 1263.2d 30.16 235.4 8.5 e.7 a.6 25.3 98.2 7be.36 3b.31 3a.0 f.0 17.4 6.e ",
    "55f.6 8.10 13.6 8.1 3.4 69.0 a1.6 17e.0 3e.3 200.3 102.1 f5.0 3.0 8.1 7.0 1db.6 74.6 ",
    "c17bc.ef"]

/-- The ranges of marks: first and last code point, in increasing order. -/
def markRanges : Array (Nat × Nat) :=
  ((Table.withStarts (Table.records markText)).map fun (start, r) =>
    (start, start + r.numbers.getD 1 0)).toArray

/-- Whether a character is a mark. -/
def isMark (c : Char) : Bool :=
  match Table.lastAtMost? markRanges (·.1) c.toNat with
  | some (_, last) => c.toNat ≤ last
  | none => false

end TaskQueue.Text
