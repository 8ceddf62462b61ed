import NestedRouting.Unicode.RunTable

/-!
# Letters and numbers

Which characters count as letters, and which as letters or numbers, where names are written: by
version 17.0 of the standard, one later than that of the named properties. ASCII is decided without
a table.
-/

namespace NestedRouting.Unicode

/-- The value one marks alphabetic code points, the value two numbers of any kind that are not
alphabetic. -/
def letterTable : RunTable := RunTable.ofLines
  ["1cAaC7AqB6AqB1bA1B7A2C1A1B3A1C1B1A3C1AnB1AvB1AcqB4AcBeA5B7A1B1A1B2eA1BtAiB1A2B2A4B1A1B6A1B1A",
   "3B1A1B1AkB1A2bB1A3vB8A4mB1A12B2A1B6A15B13AeB1A1B1A2B1A2B1A1B8ArB4A4BtAbB5A1kB1A7BaC4A2uB1A8B",
   "4A8B4A3BaC3B2A1BgA1cBdA2tBeAaCxB9A2B4A1B5AoB2AjBjApB7AbB5AoB1A7B7A1B8A16BaAcB3A7B6A24B1AgB1A",
   "3B4AfB2AaC1AjB1A8B2A2B2AmB1A7B1A1B3A4B3A8B2A2B2A2B1A1B8A1B4A2B1A5B2AaC2B2A6C2A1B4A3B1A6B4A2B",
   "2AmB1A7B1A2B1A2B1A2B4A5B4A2B2A2B4A1B7A4B1A1B7AaC6BbA3B1A9B1A3B1AmB1A7B1A2B1A5B3A9B1A3B1A2B3A",
   "1BfA4B2AaC9A4B4A3B1A8B2A2B2AmB1A7B1A2B1A5B3A8B2A2B2A2B9A2B4A2B1A5B2AaC1A1B6CaA2B1A6B3A3B1A4B",
   "3A2B1A1B1A2B3A2B3A3B3AcB4A5B3A3B1A3B3A1B6A1BeAdCdAdB1A3B1AnB1AgB3A8B1A3B1A3B8A2B1A3B1A2B2A4B",
   "2AaC8A7C1A4B1A8B1A3B1AnB1AaB1A5B3A8B1A3B1A3B8A2B5A3B1A4B2AaC1A3BcAdB1A3B1A15B2A8B1A3B1A3B1A1",
   "B5A4B7C5B2AjC1A6B1A3B1AiB3AoB1A9B1A1B2A7B8A6B1A1B1A8B6AaC2A2BdA1mB5A7B6A1B2AaC13A2B1A1B1A5B1",
   "AoB1A1B1AjB1A3B2A5B1A1B6A1B2AaC2A4BwA1BvAkCcA8B1A10B4AjB4AgB1A10B1vA1jB1A1B2A5BaC6A1sBaC4B2A",
   "12B1A1B5A1B2A17B1A99B1A4B2A7B1A1B1A4B2A15B1A4B2AxB1A4B2A7B1A1B1A4B2AfB1A1lB1A4B2A1vBeAkC3AgB",
   "gA2eB2A6B3Ah8B2AhB1AqB5A23B3AbB7AkBbAlBcAkBcAdB1A3B1A2BcA1gB2AjBeA1B4A1B3AaC6AaCmAaC6A2hB7A1",
   "7B5A1yBaAvB1AcB4A9BdAaCuB2A5BbA18B4AqB6AbC11AsB4A1rB2AkBbAaC6AaCdA1BnA2BbA3B1dA1gB1AfB1A8B3A",
   "aC12A16B2A4BaC18B1AbBeA1jB9AaC3A3BaC10B2AbB5A17B2A3B15A4B1A6B1A2B3A1B5A5cBjAyBbA7qB2A6B2A12B",
   "2A6B2A8B1A1B1A1B1A1B1AvB2A1hB1A7B1A1B3A3B1A7B3A4B2A6B4AdB5A3B1A7B37A1C1B2A6C5A1BaC6AdB2tA1B4",
   "A1B2AaB1A1B3A5B6A1B1A1B1A1B1A4B1AbB2A4B5A5B4A1B1AgC15B1Ck6A1oCqA1gBmChiAuCvgA6dB6A4B3A2B9A1C",
   "2A12B1A1B5A1B2A1kB7A1BgAnB9A7B1A7B1A7B1A7B1A7B1A7B1A7B1A7B1AwB1bA1Bd1A3BpA9B7A5B2A5B4A2eB6A3",
   "B1A2iB1A4B5A17B1A2mB3A4CaAwB1cAgBwAaCuA8C1AfCwAaC13AfC8wA534B1sAh3hB1vA1aB2A7hB3AgBaC2BkA1bB",
   "5A8B3A35B13A9B2A2vB2A2aBkAlB1AxB8A6CaA1gBcA1wB1A1BaAaCoA6B3A1B1A3BaCxB5AzBdAtB3A1fB1AcBfA1Ba",
   "C6AgBaC5B1A1jB9AeB2AaC6AnB3A1xB1A1B1A1BoA3B2AgB2A4BbA6B2A6B2A6B9A7B1A7B1A17B1AeB6A3fB5AaC6A8",
   "mcBcAnB4A1dB6isAa6B2A2yB12A7BcA5B5AcB1AdB1A5B1A1B1A2B1A2B1A30BxAa3BiA1sB2A1iB14AcB38A5B1A3rB",
   "jAaC7AqB6AqBbA2hB3A6B2A6B2A6B2A3BzAcB1AqB1AjB1A2B1AfB2AeByA3fBcA19CcA1hB4ChA2C6sAtB3A1dBgArC",
   "4AwB4C9AuB5A17B5AuB2A10B4A8B1A5B16A4eB2AaC6A10B4A10B4A14B8A1gBcAbB1AfB1A7B1A2B1AbB1AfB1A7B1A",
   "2B3A1gBcA8nB9AmBaA8BoA6B1A16B1A9B1xA6B2A1B1A18B1A2B3A1B2AnB2A8CnB2A7CvB8A9C1cAjB1A2B5A5CmB6C",
   "4AqB6AqB12A1kB4A2C2BgC2A1aC4B1A2B5A8B1A3B1AtBaA9CnAtB2C1AtB3CwA8B1AsB6A5CgA1iBaAmB2A8CjB5A8C",
   "iBnA7C28A21B1jA1fBdA1fB7A6C14B8AaC6AaCsB3A1B5AnB62AvC1A16B1A2B3A2BgA6B1eA3B3AtBaC1B8AmBbA4Cr",
   "AiB1aAlB7CkAnB9A1yBcAuC1A5BaA1lB9A1BdApB7AaC6A1fB3AaC4A4B8AzB3A1B9A1sB1A4B9A2BaC1B1A1B4AkCbA",
   "iB1AyB2A1B6A4B1qA7B1A1B1A4B1AfB1AaB7A1lB7AaC6A4B1A8B2A2B2AmB1A7B1A2B1A5B3A8B2A2B2A2B3A1B6A1B",
   "5A7BsAaB1A1B2A1B1A12B1AaB1A1B2A1B1A4B1A2B3A1B1A1B18A1uB1A3B1A4B5AaC5A3BuA1uB2A2B1A1B8AaC4mA1",
   "iB2A7BpA6ByA1rB1A1B3A1BbAaC12A1iB2A1B7AaC6AkCsArB2AeB5AcC4A7B55A1lB2vA1sBjCcA8B2A1B2A8B1A2B1",
   "AuB1A2B2A2B2A4BdAaC1yA8B2A1aB2A6B1A1B1A2BrA1fB2AaBhA20B5A1BiA21B2vA8B2gAxBfAaC6A9B1A19B1A7B1",
   "A1BfAtC5AuB2AmB1AeB21A7B1A2B1A18B3A1B1A2B1A3B1A1B2A2B8AaC6A6B1A2B1A11B1A2B1A4B1A1B7AaC6A18B4",
   "AaC6uAnB9AhB1A15B3A3BfAaC2eA1BfAlC17ApmB2uA33BhA5gB218A2pBfAtsBhA6BpA32zB5Ag7B5a1A1bB1AaC1c6",
   "AftB7AvB1AaC6A27B1AaC6AuBiA1cBgA4BcAaC1A7C1AlB5AjBc0A19B3AaC5iA1sBnC9ApB2ApB18A23B4A1lB7AhB1",
   "sA2B1A1BcA7B9A5p2B15AwB2pA37B6ppA4B1A7B1A2B1A83BfA1BtA3B2A1BeA4B8Ab0B1s4A2zB5AdB3A9B7AaB4A1B",
   "381AaC152AkCcAkC30ApC3rA2dB1A1zB1A2B2A1B2A2B2A4B1AcB1A1B1A7B1A1tB1A4B2A8B1A7B1AsB1A4B1A5B1A1",
   "B3A7B1A9gB2ApB1ApB1AvB1ApB1AvB1ApB1AvB1ApB1AvB1ApB1A8B2A1eC1dsAvB6A6B5xA7B1AhB2A7B1A2B1A5B5A",
   "1qBxA1B34A19BaA7B2AaC4A1B8xAuBiA18B4AaCd2AsB4AaC5yAuB2A1BaC5hAvB1AmB8A2B68A7B1A4B1A2B1AfB1A5",
   "hB2A9C1cA1wB3A1B3A1B4AaClzA1nC1A3C1A4C24A19C1AfC5eA4B1ArB1A2B1A1B2A1B1AaB1A4B1A1B1A1B6A1B4A1",
   "B1A1B1A1B1A3B1A2B1A1B2A1B1A1B1A1B1A1B1A1B1A2B1A1B2A4B1A7B1A4B1A4B1A1B1AaB1AhB5A3B1A5B1AhBg4A",
   "dCzAqB6AqB6AqB21yAaCsmAwyoBwA3dqB2A4geB2A5rlBfAhaB1wiAf2B15uA3t7B5A6juBjdl2A"]

/-- Whether a character is alphabetic. -/
def isAlphabetic (c : Char) : Bool :=
  if c.toNat < 128 then c.isAlpha else letterTable.holds c

/-- Whether a character is alphabetic or a number of any kind. -/
def isAlphanumeric (c : Char) : Bool :=
  if c.toNat < 128 then c.isAlphanum else letterTable.value c != 0

end NestedRouting.Unicode
