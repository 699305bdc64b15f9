/-!
# Characters of numeric hosts

A host name is read without regard to how its characters are dressed: full-width, superscript, circled
and mathematical letters and digits stand for the plain ones, and some characters stand for nothing.
Here are those that matter to a numeric address: the digits, the letters from `a` to `f`, the `x` of a
hexadecimal number, and the full stop (Unicode 17).
-/

namespace HostingBilling.Webhook

/-- First and last code point of the runs of characters that stand for nothing. -/
def silentRuns : List (Nat × Nat) := [
  (0xad,0xad), (0x34f,0x34f), (0x115f,0x1160), (0x17b4,0x17b5), (0x180b,0x180f), (0x200b,0x200b),
  (0x2060,0x2064), (0x206a,0x206f), (0x3164,0x3164), (0xfe00,0xfe0f), (0xfeff,0xfeff),
  (0xffa0,0xffa0), (0x1bca0,0x1bca3), (0x1d173,0x1d17a), (0xe0100,0xe01ef)]

/-- First and last code point of each run, and the character for which its first one stands. The others
stand for the characters that follow it. -/
def plainRuns : List (Nat × Nat × Char) := [
  (0xaa,0xaa,'a'), (0xb2,0xb3,'2'), (0xb9,0xb9,'1'), (0x2e3,0x2e3,'x'), (0x1d2c,0x1d2c,'a'),
  (0x1d2e,0x1d2e,'b'), (0x1d30,0x1d31,'d'), (0x1d43,0x1d43,'a'), (0x1d47,0x1d47,'b'),
  (0x1d48,0x1d49,'d'), (0x1d9c,0x1d9c,'c'), (0x1da0,0x1da0,'f'), (0x2070,0x2070,'0'),
  (0x2074,0x2079,'4'), (0x2080,0x2089,'0'), (0x2090,0x2090,'a'), (0x2091,0x2091,'e'),
  (0x2093,0x2093,'x'), (0x2102,0x2102,'c'), (0x212c,0x212d,'b'), (0x212f,0x212f,'e'),
  (0x2130,0x2131,'e'), (0x2145,0x2145,'d'), (0x2146,0x2147,'d'), (0x2169,0x2169,'x'),
  (0x216d,0x216e,'c'), (0x2179,0x2179,'x'), (0x217d,0x217e,'c'), (0x2460,0x2468,'1'),
  (0x24b6,0x24bb,'a'), (0x24cd,0x24cd,'x'), (0x24d0,0x24d5,'a'), (0x24e7,0x24e7,'x'),
  (0x24ea,0x24ea,'0'), (0x3002,0x3002,'.'), (0xa7f2,0xa7f2,'c'), (0xa7f3,0xa7f3,'f'),
  (0xff0e,0xff0e,'.'), (0xff10,0xff19,'0'), (0xff21,0xff26,'a'), (0xff38,0xff38,'x'),
  (0xff41,0xff46,'a'), (0xff58,0xff58,'x'), (0xff61,0xff61,'.'), (0x1ccd6,0x1ccdb,'a'),
  (0x1cced,0x1cced,'x'), (0x1ccf0,0x1ccf9,'0'), (0x1d400,0x1d405,'a'), (0x1d417,0x1d417,'x'),
  (0x1d41a,0x1d41f,'a'), (0x1d431,0x1d431,'x'), (0x1d434,0x1d439,'a'), (0x1d44b,0x1d44b,'x'),
  (0x1d44e,0x1d453,'a'), (0x1d465,0x1d465,'x'), (0x1d468,0x1d46d,'a'), (0x1d47f,0x1d47f,'x'),
  (0x1d482,0x1d487,'a'), (0x1d499,0x1d499,'x'), (0x1d49c,0x1d49c,'a'), (0x1d49e,0x1d49f,'c'),
  (0x1d4b3,0x1d4b3,'x'), (0x1d4b6,0x1d4b9,'a'), (0x1d4bb,0x1d4bb,'f'), (0x1d4cd,0x1d4cd,'x'),
  (0x1d4d0,0x1d4d5,'a'), (0x1d4e7,0x1d4e7,'x'), (0x1d4ea,0x1d4ef,'a'), (0x1d501,0x1d501,'x'),
  (0x1d504,0x1d505,'a'), (0x1d507,0x1d509,'d'), (0x1d51b,0x1d51b,'x'), (0x1d51e,0x1d523,'a'),
  (0x1d535,0x1d535,'x'), (0x1d538,0x1d539,'a'), (0x1d53b,0x1d53d,'d'), (0x1d54f,0x1d54f,'x'),
  (0x1d552,0x1d557,'a'), (0x1d569,0x1d569,'x'), (0x1d56c,0x1d571,'a'), (0x1d583,0x1d583,'x'),
  (0x1d586,0x1d58b,'a'), (0x1d59d,0x1d59d,'x'), (0x1d5a0,0x1d5a5,'a'), (0x1d5b7,0x1d5b7,'x'),
  (0x1d5ba,0x1d5bf,'a'), (0x1d5d1,0x1d5d1,'x'), (0x1d5d4,0x1d5d9,'a'), (0x1d5eb,0x1d5eb,'x'),
  (0x1d5ee,0x1d5f3,'a'), (0x1d605,0x1d605,'x'), (0x1d608,0x1d60d,'a'), (0x1d61f,0x1d61f,'x'),
  (0x1d622,0x1d627,'a'), (0x1d639,0x1d639,'x'), (0x1d63c,0x1d641,'a'), (0x1d653,0x1d653,'x'),
  (0x1d656,0x1d65b,'a'), (0x1d66d,0x1d66d,'x'), (0x1d670,0x1d675,'a'), (0x1d687,0x1d687,'x'),
  (0x1d68a,0x1d68f,'a'), (0x1d6a1,0x1d6a1,'x'), (0x1d7ce,0x1d7d7,'0'), (0x1d7d8,0x1d7e1,'0'),
  (0x1d7e2,0x1d7eb,'0'), (0x1d7ec,0x1d7f5,'0'), (0x1d7f6,0x1d7ff,'0'), (0x1f12b,0x1f12b,'c'),
  (0x1f130,0x1f135,'a'), (0x1f147,0x1f147,'x'), (0x1fbf0,0x1fbf9,'0')]

/-- First and last code point of the numbers in circles, and the number of the first. -/
def circledRuns : List (Nat × Nat × Nat) := [
  (0x2469,0x2473,10), (0x3251,0x325f,21), (0x32b1,0x32bf,36)]

/-- The characters that stand for several. -/
def plainWords : List (Nat × String) := [
  (0x213b,"fax"), (0x3372,"da"), (0x33c4,"cc"), (0x33c5,"cd"), (0x33c8,"db"), (0xfb00,"ff"),
  (0x1f12d,"cd")]

def isSilent (n : Nat) : Bool := silentRuns.any fun (first, last) => first ≤ n && n ≤ last

/-- The characters for which one stands, in lower case. One that is in no table stands for itself. -/
def plain (c : Char) : List Char :=
  let n := c.toNat
  if n < 128 then [c.toLower]
  else if isSilent n then []
  else match plainRuns.find? fun (first, last, _) => first ≤ n && n ≤ last with
  | some (first, _, p) => [Char.ofNat (p.toNat + (n - first))]
  | none => match circledRuns.find? fun (first, last, _) => first ≤ n && n ≤ last with
    | some (first, _, number) => (toString (number + (n - first))).toList
    | none => ((plainWords.lookup n).map String.toList).getD [c]

end HostingBilling.Webhook
