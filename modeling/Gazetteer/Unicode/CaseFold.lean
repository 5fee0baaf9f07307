import Gazetteer.Unicode.CodeSet

/-! Simple case folding.

Characters that differ only in case form an orbit of at most four members. The table gives
each member's successor in its orbit, the last member being followed by the first, so an orbit
is walked from any of its members. -/
namespace Gazetteer.Unicode

/-- How the characters of a run lead to their successors. -/
inductive FoldStep
  /-- Adds a distance. -/
  | up (distance : Nat)
  /-- Subtracts a distance. -/
  | down (distance : Nat)
  /-- The run is made of neighbours that lead to each other. -/
  | swap
  deriving Repr, DecidableEq

structure FoldRun where
  first : Nat
  last : Nat
  step : FoldStep
  deriving Repr, DecidableEq

namespace FoldRun

/-- Reads `span>distance`, `span<distance` or `span~`, a span being `first` or `first-last`. -/
def ofWord (word : List Char) : FoldRun :=
  let isMark (c : Char) : Bool := c == '>' || c == '<' || c == '~'
  let span := CodeSet.run (word.takeWhile (!isMark ·))
  { first := span.first
    last := span.last
    step := match word.dropWhile (!isMark ·) with
      | '>' :: distance => .up (CodeSet.number distance)
      | '<' :: distance => .down (CodeSet.number distance)
      | _ => .swap }

def successor (r : FoldRun) (n : Nat) : Nat :=
  match r.step with
  | .up d => n + d
  | .down d => n - d
  | .swap => if (n - r.first) % 2 == 0 then n + 1 else n - 1

end FoldRun

namespace CaseFold

/-- The runs in ascending order. -/
def runs : Array FoldRun := List.toArray <| List.flatMap
  (fun line => (CodeSet.words line.toList).map FoldRun.ofWord) [
  "41-5A>20 61-6A<20 6B>20BF 6C-72<20 73>10C 74-7A<20 B5>2E7 C0-D6>20 D8-DE>20 DF>1DBF E0-E4<20",
  "E5>2046 E6-F6<20 F8-FE<20 FF>79 100-12F~ 132-137~ 139-148~ 14A-177~ 178<79 179-17E~ 17F<12C",
  "180>C3 181>D2 182-185~ 186>CE 187-188~ 189-18A>CD 18B-18C~ 18E>4F 18F>CA 190>CB 191-192~",
  "193>CD 194>CF 195>61 196>D3 197>D1 198-199~ 19A>A3 19B>A641 19C>D3 19D>D5 19E>82 19F>D6",
  "1A0-1A5~ 1A6>DA 1A7-1A8~ 1A9>DA 1AC-1AD~ 1AE>DA 1AF-1B0~ 1B1-1B2>D9 1B3-1B6~ 1B7>DB 1B8-1B9~",
  "1BC-1BD~ 1BF>38 1C4-1C5>1 1C6<2 1C7-1C8>1 1C9<2 1CA-1CB>1 1CC<2 1CD-1DC~ 1DD<4F 1DE-1EF~",
  "1F1-1F2>1 1F3<2 1F4-1F5~ 1F6<61 1F7<38 1F8-21F~ 220<82 222-233~ 23A>2A2B 23B-23C~ 23D<A3",
  "23E>2A28 23F-240>2A3F 241-242~ 243<C3 244>45 245>47 246-24F~ 250>2A1F 251>2A1C 252>2A1E",
  "253<D2 254<CE 256-257<CD 259<CA 25B<CB 25C>A54F 260<CD 261>A54B 263<CF 264>A567 265>A528",
  "266>A544 268<D1 269<D3 26A>A544 26B>29F7 26C>A541 26F<D3 271>29FD 272<D5 275<D6 27D>29E7",
  "280<DA 282>A543 283<DA 287>A52A 288<DA 289<45 28A-28B<D9 28C<47 292<DB 29D>A515 29E>A512",
  "345>54 370-373~ 376-377~ 37B-37D>82 37F>74 386>26 388-38A>25 38C>40 38E-38F>3F 390>1C43",
  "391-3A1>20 3A3>1F 3A4-3AB>20 3AC<26 3AD-3AF<25 3B0>1C33 3B1<20 3B2>1E 3B3-3B4<20 3B5>40",
  "3B6-3B7<20 3B8>19 3B9>1C05 3BA>36 3BB<20 3BC<307 3BD-3BF<20 3C0>16 3C1>30 3C2>1 3C3-3C5<20",
  "3C6>F 3C7-3C8<20 3C9>1D5D 3CA-3CB<20 3CC<40 3CD-3CE<3F 3CF>8 3D0<3E 3D1>23 3D5<2F 3D6<36",
  "3D7<8 3D8-3EF~ 3F0<56 3F1<50 3F2>7 3F3<74 3F4<5C 3F5<60 3F7-3F8~ 3F9<7 3FA-3FB~ 3FD-3FF<82",
  "400-40F>50 410-42F>20 430-431<20 432>184E 433<20 434>184D 435-43D<20 43E>1844 43F-440<20",
  "441-442>1842 443-449<20 44A>183C 44B-44F<20 450-45F<50 460-461~ 462>1 463>1824 464-481~",
  "48A-4BF~ 4C0>F 4C1-4CE~ 4CF<F 4D0-52F~ 531-556>30 561-586<30 10A0-10C5>1C60 10C7>1C60",
  "10CD>1C60 10D0-10FA>BC0 10FD-10FF>BC0 13A0-13EF>97D0 13F0-13F5>8 13F8-13FD<8 1C80<186E",
  "1C81<186D 1C82<1864 1C83<1862 1C84>1 1C85<1863 1C86<185C 1C87<1825 1C88>89C2 1C89-1C8A~",
  "1C90-1CBA<BC0 1CBD-1CBF<BC0 1D79>8A04 1D7D>EE6 1D8E>8A38 1E00-1E5F~ 1E60>1 1E61>3A",
  "1E62-1E95~ 1E9B<3B 1E9E<1DBF 1EA0-1EFF~ 1F00-1F07>8 1F08-1F0F<8 1F10-1F15>8 1F18-1F1D<8",
  "1F20-1F27>8 1F28-1F2F<8 1F30-1F37>8 1F38-1F3F<8 1F40-1F45>8 1F48-1F4D<8 1F51>8 1F53>8 1F55>8",
  "1F57>8 1F59<8 1F5B<8 1F5D<8 1F5F<8 1F60-1F67>8 1F68-1F6F<8 1F70-1F71>4A 1F72-1F75>56",
  "1F76-1F77>64 1F78-1F79>80 1F7A-1F7B>70 1F7C-1F7D>7E 1F80-1F87>8 1F88-1F8F<8 1F90-1F97>8",
  "1F98-1F9F<8 1FA0-1FA7>8 1FA8-1FAF<8 1FB0-1FB1>8 1FB3>9 1FB8-1FB9<8 1FBA-1FBB<4A 1FBC<9",
  "1FBE<1C79 1FC3>9 1FC8-1FCB<56 1FCC<9 1FD0-1FD1>8 1FD3<1C43 1FD8-1FD9<8 1FDA-1FDB<64",
  "1FE0-1FE1>8 1FE3<1C33 1FE5>7 1FE8-1FE9<8 1FEA-1FEB<70 1FEC<7 1FF3>9 1FF8-1FF9<80",
  "1FFA-1FFB<7E 1FFC<9 2126<1D7D 212A<20DF 212B<2066 2132>1C 214E<1C 2160-216F>10 2170-217F<10",
  "2183-2184~ 24B6-24CF>1A 24D0-24E9<1A 2C00-2C2F>30 2C30-2C5F<30 2C60-2C61~ 2C62<29F7 2C63<EE6",
  "2C64<29E7 2C65<2A2B 2C66<2A28 2C67-2C6C~ 2C6D<2A1C 2C6E<29FD 2C6F<2A1F 2C70<2A1E 2C72-2C73~",
  "2C75-2C76~ 2C7E-2C7F<2A3F 2C80-2CE3~ 2CEB-2CEE~ 2CF2-2CF3~ 2D00-2D25<1C60 2D27<1C60",
  "2D2D<1C60 A640-A649~ A64A>1 A64B<89C3 A64C-A66D~ A680-A69B~ A722-A72F~ A732-A76F~ A779-A77C~",
  "A77D<8A04 A77E-A787~ A78B-A78C~ A78D<A528 A790-A793~ A794>30 A796-A7A9~ A7AA<A544 A7AB<A54F",
  "A7AC<A54B A7AD<A541 A7AE<A544 A7B0<A512 A7B1<A52A A7B2<A515 A7B3>3A0 A7B4-A7C3~ A7C4<30",
  "A7C5<A543 A7C6<8A38 A7C7-A7CA~ A7CB<A567 A7CC-A7CD~ A7D0-A7D1~ A7D6-A7DB~ A7DC<A641",
  "A7F5-A7F6~ AB53<3A0 AB70-ABBF<97D0 FB05-FB06~ FF21-FF3A>20 FF41-FF5A<20 10400-10427>28",
  "10428-1044F<28 104B0-104D3>28 104D8-104FB<28 10570-1057A>27 1057C-1058A>27 1058C-10592>27",
  "10594-10595>27 10597-105A1<27 105A3-105B1<27 105B3-105B9<27 105BB-105BC<27 10C80-10CB2>40",
  "10CC0-10CF2<40 10D50-10D65>20 10D70-10D85<20 118A0-118BF>20 118C0-118DF<20 16E40-16E5F>20",
  "16E60-16E7F<20 1E900-1E921>22 1E922-1E943<22"]

/-- The last run of the window `[lo, hi)` that starts at or before `n`. -/
def locate (n : Nat) (lo hi : Nat) (found : Option FoldRun) (bound : hi ≤ runs.size) :
    Option FoldRun :=
  if h : lo < hi then
    let middle := lo + (hi - lo) / 2
    have : middle < runs.size := by omega
    if runs[middle].first ≤ n then locate n (middle + 1) hi (some runs[middle]) bound
    else locate n lo middle found (by omega)
  else found
termination_by hi - lo

/-- The next member of the orbit; a character without case variants leads to itself. -/
def next (c : Char) : Char :=
  match locate c.toNat 0 runs.size none (Nat.le_refl _) with
  | some run => if c.toNat ≤ run.last then Char.ofNat (run.successor c.toNat) else c
  | none => c

/-- The characters that differ from `c` at most in case, `c` first. -/
def orbit (c : Char) : List Char :=
  let second := next c
  let third := next second
  let fourth := next third
  (c :: [second, third, fourth].takeWhile (· != c))

/-- The case variants of an ASCII letter within ASCII; other characters stand alone. -/
def asciiOrbit (c : Char) : List Char :=
  if c.isLower then [c, c.toUpper] else if c.isUpper then [c, c.toLower] else [c]

end CaseFold
end Gazetteer.Unicode
