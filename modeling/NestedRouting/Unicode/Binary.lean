import NestedRouting.Unicode.RunTable

/-!
# Binary properties

The properties of code points that either hold or do not. In each table the value one marks the
code points that have the property.
-/

namespace NestedRouting.Unicode.Binary

/-- The property Alphabetic. -/
def alphabetic : RunTable := RunTable.ofLines
  ["1tAqB6AqB1bA1BaA1B4A1B5AnB1AvB1AcqB4AcBeA5B7A1B1A1B2eA1BtAiB1A2B2A4B1A1B6A1B1A3B1A1B1AkB1A2b",
   "B1A3vB8A4mB1A12B2A1B6A15B13AeB1A1B1A2B1A2B1A1B8ArB4A4BtAbB5A1kB1A7BeA2uB1A8B4A8B4A3BaA3B2A1B",
   "gA1cBdA2tBoAxB9A2B4A1B5AoB2AjBjApB7AbB5AoB1A6B8A1B8A16BaAcB3A7B6A24B1AgB1A3B4AfBdAjB1A8B2A2B",
   "2AmB1A7B1A1B3A4B3A8B2A2B2A2B1A1B8A1B4A2B1A5BcA2BaA1B4A3B1A6B4A2B2AmB1A7B1A2B1A2B1A2B4A5B4A2B",
   "2A2B4A1B7A4B1A1BhA6BbA3B1A9B1A3B1AmB1A7B1A2B1A5B3A9B1A3B1A2B3A1BfA4BlA4B4A3B1A8B2A2B2AmB1A7B",
   "1A2B1A5B3A8B2A2B2A2B9A2B4A2B1A5BdA1BgA2B1A6B3A3B1A4B3A2B1A1B1A2B3A2B3A3B3AcB4A5B3A3B1A3B3A1B",
   "6A1B14AdB1A3B1AnB1AgB3A8B1A3B1A3B8A2B1A3B2A1B2A4BsA4B1A8B1A3B1AnB1AaB1A5B3A8B1A3B1A3B8A2B6A2",
   "B1A4BdA3BcAdB1A3B1A15B2A8B1A3B1A3B1A1B5A4B7A5BmA6B1A3B1AiB3AoB1A9B1A1B2A7B8A6B1A1B1A8BiA2BdA",
   "1mB5A7B6A1B1fA2B1A1B1A5B1AoB1A1B1AjB1A3B2A5B1A1B6A1BeA4BwA1B1rA8B1A10B4AjB4AgB1A10B1vA1jB1A1",
   "B2A5BgA1sBaA4B2A12B1A1B5A1B2A17B1A99B1A4B2A7B1A1B1A4B2A15B1A4B2AxB1A4B2A7B1A1B1A4B2AfB1A1lB1",
   "A4B2A1vB11AgBgA2eB2A6B3Ah8B2AhB1AqB5A23B3AbB7AkBbAlBcAkBcAdB1A3B1A2BcA1gB2AjBeA1B4A1B1vA2hB7",
   "A17B5A1yBaAvB1AcB4A9BnAuB2A5BbA18B4AqB1iAsB4A1rB2AkB1eA1BnA2BbA3B1dA1gB1AfB1A8B1fA16B2A4BaA1",
   "8B1AbBeA1jBmA3BaA10B2AbB5A17B2A3B15A4B1A6B1A2B3A1B5A5cBjAyBbA7qB2A6B2A12B2A6B2A8B1A1B1A1B1A1",
   "B1AvB2A1hB1A7B1A1B3A3B1A7B3A4B2A6B4AdB5A3B1A7B38A1BdA1BgAdB2tA1B4A1B2AaB1A1B3A5B6A1B1A1B1A1B",
   "1A4B1AbB2A4B5A5B4A1BhA15BmlA1gB1eeA6dB6A4B3A2BcA12B1A1B5A1B2A1kB7A1BgAnB9A7B1A7B1A7B1A7B1A7B",
   "1A7B1A7B1A7B1AwB1bA1Bd1A3BpA9B7A5B2A5B4A2eB6A3B1A2iB1A4B5A17B1A2mBhAwB1cAgBe8A534B1sAh3hB1vA",
   "1aB2A7hB3AgBaA2BkA1bB5A8B3A35B13A9B2A2vB2A1vB2A2B1A1B1A8BlAkB1AxBoA1gBcA1wB1A1B18A6B3A1B1A3B",
   "aAxB5AzBdAtB3A1fB1AcBfA1BgAgBaA5B1A1jB9AeBiAnB3A1xB1A1B1A1BoA3B2AgB2A4BbA6B2A6B2A6B9A7B1A7B1",
   "A17B1AeB6A3fBlA8mcBcAnB4A1dB6isAa6B2A2yB12A7BcA5B5AcB1AdB1A5B1A1B1A2B1A2B1A30BxAa3BiA1sB2A1i",
   "B14AcB38A5B1A3rB10AqB6AqBbA2hB3A6B2A6B2A6B2A3BzAcB1AqB1AjB1A2B1AfB2AeByA3fB1xA1hB7fAtB3A1dB1",
   "bAwBdAuB5A17B5AuB2A10B4A8B1A5B16A4eBiA10B4A10B4A14B8A1gBcAbB1AfB1A7B1A2B1AbB1AfB1A7B1A2B3A1g",
   "BcA8nB9AmBaA8BoA6B1A16B1A9B1xA6B2A1B1A18B1A2B3A1B2AnBaAnB9AvB1tAjB1A2BaAmBaAqB1yA1kB6A2B1sA4",
   "B1A2B5A8B1A3B1AtB16AtB3AtBzA8B1AsBrA1iBaAmBaAjBdAiB32A21B1jA1fBdA1fBdA14ByAsB3A1B5AnB6yA16B1",
   "A2B3A2BgA3B1jA1B3AtBaA1B8AmB16AiB1aAlBrAnB9A1yB17A5BaA1lB9A1BdApBnA1fBhA4B8AzB3A1B9A1sB1A4B9",
   "A2BaA1B1A1BzAiB1AyB2A1B6A4B1qA7B1A1B1A4B1AfB1AaB7A1lBnA4B1A8B2A2B2AmB1A7B1A2B1A5B3A8B2A2B2A2",
   "B3A1B6A1B5A7BsAaB1A1B2A1B1A12B1AaB1A1B2A1B1A4B1A2B3A1B1A1B18A1uB1A3B1A4BkA3BuA1uB2A2B1A1B54A",
   "1iB2A7BpA6ByA1rB1A1B3A1B1nA1iB2A1B1zArB2AeBlA7B55A1lB2vA1sBvA8B2A1B2A8B1A2B1AuB1A2B2A2B2A4B2",
   "lA8B2A1aB2A6B1A1B1A2BrA1fB2AaBhA20B5A1BiA21B5jAxBvA9B1A19B1A7B1A1B1dAuB2AmB1AeB21A7B1A2B1A18",
   "B3A1B1A2B1A3B1A1B2A2BoA6B1A2B1A11B1A2B1A4B1A1B93AnB9AhB1A15B3A3B33A1B27ApmB2uA33BhA5gB218A2p",
   "BfAtsBhA6BpA32zB5Ag7B5a1A1bB1chAftB7AvBhA27BhAuBiA1cBgA4BvAlB5AjBc0A19B5vA1sB3kA23B4A1lB7AhB",
   "1sA2B1A1BcA2BeA4qgB8AyeB15AaB6w7A4B1A7B1A2B1A83BfA1BtA3B2A1BeA4B8Ab0B1s4A2zB5AdB3A9B7AaB4A1B",
   "4m9A2dB1A1zB1A2B2A1B2A2B2A4B1AcB1A1B1A7B1A1tB1A4B2A8B1A7B1AsB1A4B1A5B1A1B3A7B1A9gB2ApB1ApB1A",
   "vB1ApB1AvB1ApB1AvB1ApB1AvB1ApB1A8B1f8AvB6A6B5xA7B1AhB2A7B1A2B1A5B5A1qBxA1B34A19BaA7BgA1B8xAu",
   "BiA18BdgAsB6cAuB2A1BdrA7B1A4B1A2B1AfB1A5hB1nA1wB3A1B3A1BxgA4B1ArB1A2B1A1B2A1B1AaB1A4B1A1B1A1",
   "B6A1B4A1B1A1B1A1B1A3B1A2B1A1B2A1B1A1B1A1B1A1B1A1B1A2B1A1B2A4B1A7B1A4B1A4B1A1B1AaB1AhB5A3B1A5",
   "B1AhBhgAqB6AqB6AqB2uuAwyoBwA37eB6A66B2A4g2BeA5rlBfAhaB1wiAf2B15uA3t7B5A38gBjgwgA"]

/-- The property ASCII Hex Digit. -/
def asciiHexDigit : RunTable := RunTable.ofLines
  ["1cAaB7A6BqA6BnvkpA"]

/-- The property Bidi Control. -/
def bidiControl : RunTable := RunTable.ofLines
  ["17gA1B54hA2BqA5B1jA4Bnp92A"]

/-- The property Bidi Mirrored. -/
def bidiMirrored : RunTable := RunTable.ofLines
  ["14A2BiA1B1A1BsA1B1A1BtA1B1A1B19A1BfA1B2v2A4B1gdA2B1wcA2BaA2B1iA2BeA2B4xA1B5cA4B3A6B3A1B3A2B3",
   "A4B1A4B1A1B1A1B4A9B5A1B1AiB5A4B9A2B1A1B1A8B1AwB2A4B5A1B9A2B2AjB5A2B9A5B2A2B4AoB2AgB8A4BkA2B7",
   "A2Bu5AeB22A1B2A4B1A2B1A3B5A4B5A3B3AeBb7AmB2A6B1AeB8A1B7A6B3A1B4A5B1A2B2A5B4A1B1A3B2A2BaA6B2A",
   "2BcAjB1A4B2A1B1A1B2A1B1A4B5A2B6A3BoA2BbA2B4A4B1A2B2A2B4A17B2A8B1A14B5A1B1A1B3A5B5A3B4A1B3A5B",
   "1A1B74A1BebA4B3A2B1A2BeA2B2AaB17A8BbvAaB2A8B14qlA6B5A2B4iA2BiA1B1A1BsA1B1A1BtA1B1A1B1A2B1A2B",
   "16k7A1B1lA1B1lA1B1lA1B1lA1BlagsA"]

/-- The property Cased. -/
def cased : RunTable := RunTable.ofLines
  ["1tAqB6AqB1bA1BaA1B4A1B5AnB1AvB1A5fB1A4B4A5sB1A10B7A2BuA5B2oA1B16A4B2A2B2A4B1A1B6A1B1A3B1A1B1",
   "AkB1A2bB1A3vB8A4mB1A12B9A15B26vA12B1A1B5A1B2A17B1A4BioA2eB2A6B1oiAbB5A17B2A3B1sA5cB1sA7qB2A6",
   "B2A12B2A6B2A8B1A1B1A1B1A1B1AvB2A1hB1A7B1A1B3A3B1A7B3A4B2A6B4AdB5A3B1A7B38A1BdA1BgAdB2tA1B4A1",
   "B2AaB1A1B3A5B6A1B1A1B1A1B1A4B1A6B4A1B2A4B5A5B4A1BhAwB3A2BmpA1gB1eeA6dB6A4B3A2BcA12B1A1B5A1Bn",
   "wyA1aBiAuB3oA2uB3A4B1A1qB2A2B1A1B1A8BlA5B1A3BmtA17B1AeB6A28BfnkA7BcA5BspAqB6AqBx1A28B2oA10B4",
   "A10B38AbB1AfB1A7B1A2B1AbB1AfB1A7B1A2BcjA1B2A3B1A16B1A9BxxA1fBdA1fB2lAmBaAmB26yA1sBgv4A1sBk1s",
   "A2dB1A1zB1A2B2A1B2A2B2A4B1AcB1A1B1A7B1A1tB1A4B2A8B1A7B1AsB1A4B1A5B1A1B3A7B1A9gB2ApB1ApB1AvB1",
   "ApB1AvB1ApB1AvB1ApB1AvB1ApB1A8B1f8AaB1AkB6A6B79A1qB1oyA1wB1kcAqB6AqB6AqBl5diA"]

/-- The property Case Ignorable. -/
def caseIgnorable : RunTable := RunTable.ofLines
  ["13A1B6A1BbA1BzA1B1A1B1zA1B4A1B1A1B4A1B2A2BdzA5cB4A2B4A1B9A2B1A1B6zA7B5rA1B5A1B1dA19B1A1B1A2B",
   "1A2B1A1B18A1BbA6BaAbB1A1BzA1BaAlBgA1B2tA8B1AaB1A4BxA1B1A1BuArB2jAbB1mAbB4A1B2A1BoAoB17A3B18A",
   "1B7A2B5A9B15A1mB1jA1B1A1B4A8B4A1B3A7BaA2BdA1BfA1B1mA1B4A4B8A1BkA2BqA1B2A2B1lA1B4A2B4A2B2A3B3",
   "A1BuA2B3A1BbA2B1lA1B4A5B1A2B4A1BkA2BmA6B1A1B1mA1B2A1B1A4B8A1B7A2BbA2BuA1B1pA1BcA1B1eA1B3A1B1",
   "jA1B1A3B5A3B1A4B7A2BbA2BtA1B1mA1B2A1B6A1B5A2BkA2BsA2B1lA2B4A4B8A1BkA2BtA1B20A1B7A3B1A1B2iA1B",
   "2A7BbA9B2qA1B2A9B9A1B1A7B21A2BrA1B1A1B1A1B1jAeB1A5B1A2B5AbB1A10B9A1B2uA4B1A6B1A2B2A2BpA2B4A3",
   "BgA4BdA1B2A2B6A1BfA1B2mA1BgwA3BqaA3BtA2BuA2BuA2B1sA2B1A7B8A1B2AbB3A1B5A1B19A5B1fA1B1tA2ByA1B",
   "3aA3B4A2B9A1B6A3B63A2B2A1B1mA1B1A7B1A1B1A1B2A8B6AaB2A1B13A1B8AvB1dA4B1cA1B1A5B1A1B5A1B14A9Bc",
   "A2BwA4B2A2B1A3B1kA1B1A2B3A1B1A3B1mA8B2A2B1sA6B2aA3B1AdB1A7B4A1B6A1B3A2B1eA1rBdA1ByA2tBcdA1B1",
   "A3BbA3BdA3BdA3BdA2BcA5B8A2BaA1B2A1B2A5B1dA5B1AaB1A1BdA1BgAdB1fAxB2a3A2B35A3B3hA1BfA1B2oAwB1b",
   "A1Bd1A1B10A4B3A5B5A1B2lA6B2lA3BlxyA1ByqA6B7iA1B2qA4B1AaB1A1BsA4B28A2BeAyB26A1BnA3B2vA3B3A2B8",
   "A1B3A1B4A1BpA2B5A1B47A2BqAiBdA1B12A8BpAbB1aA3B1cA1B2A4B2A2BhA1BlA2B1uA6B2A2B2A2BcA1B8A1BzA1B",
   "bA1B1fA1B1A3B2A2B5A2B1A1BrA1BeA2B5A2B1A1B2sA5B9A3B3dA1B2A1B4A1Bfn4A1B43AhBfxAgB3A1BcAgByA1B2",
   "A1B4pA1B7A1B6A1BbA1BzA1B1A1B1bA1B19A2B1vA1BlA3Be9A1B6aA1B45A5BslA6B1A16B1A9Bg6A3B1A2B5A4B14A",
   "3B4A1B4lA2BfxA4B12A1BqA5B1A1B8rA2B27A4B1yAbB1dA4B3fA1B1iAfB15A1B2A2BaA3B1dA4B2A2B2A1B4A1BaA1",
   "B1eA3B10A5B1A8B1qA1BcA2B1gA9BaA4B2A1B2nA3B2A1B1A2B6A1B2A1B4dA1B3A8BlA2B1lA2B3A1B11A7B3A5B1yA",
   "6BdA1B1A1B1A1BeA2B2dA8B2A3B1A1BnA1B2cA6B1A1B4A2B1A2B6mA4B6A2B1A2BrA2B2dA8B2A1B1A2B2yA1B1A1B2",
   "A6B1A1B2tA1B1A1B2A4B1A5B77A9B1A2B74A2B1A1B4A1B40A4B2A2B4A1BwAaB14A6B2A4B8A1B9A6B2A3B1aAdB1A2",
   "BbaA7B1A6B1A1B2aAmB2A7B1A2B1A2B3eA6B3A1B1A2B1A7B1A1B20A2B3A1B1A1B9nA2BbA2B1gA5B5A1B1A1BnA1B4",
   "45AhB6AfB8ugAcB3A3B1xcA5B1nA7B9A4Be4A3B14A2BdeA1B1rAhB1sA2B1A2BcnfA4B1A7B1A2B2hqA2B1A4B3mkA1",
   "aB2AnBf4A3B9AgB2A7BuA4B44A3B1izA1jB4A1eB8A1BeA1BmA5B1AfB11sA7B1AhB2A7B1A2B1A5B5A1qBxA1B4gAeB",
   "a8A1B1pA4Be3A5B72A2BkgA7B31A8B23zA5Bgx6pA1BuA2oB3kA6oB47bkA"]

/-- The property Changes When Casefolded. -/
def changesWhenCasefolded : RunTable := RunTable.ofLines
  ["1tAqB2iA1BaAnB1A8BwA1B1A1B1A1B1A1B1A1B1A1B1A1B1A1B1A1B1A1B1A1B1A1B1A1B1A1B1A1B1A1B1A1B1A1B1A",
   "1B1A1B1A1B1A1B1A1B1A1B1A1B1A1B1A1B1A1B2A1B1A1B1A1B1A1B1A1B1A1B1A1B1A1B1A2B1A1B1A1B1A1B1A1B1A",
   "1B1A1B1A1B1A1B1A1B1A1B1A1B1A1B1A1B1A1B1A1B1A1B1A1B1A1B1A1B1A1B1A1B1A1B1A2B1A1B1A1B1A1B1A2B1A",
   "1B1A2B1A3B2A4B1A2B1A3B3A2B1A2B1A1B1A1B1A2B1A1B2A1B1A2B1A3B1A1B1A2B3A1B7A2B1A2B1A2B1A1B1A1B1A",
   "1B1A1B1A1B1A1B1A1B1A1B2A1B1A1B1A1B1A1B1A1B1A1B1A1B1A1B1A1B2A2B1A1B1A3B1A1B1A1B1A1B1A1B1A1B1A",
   "1B1A1B1A1B1A1B1A1B1A1B1A1B1A1B1A1B1A1B1A1B1A1B1A1B1A1B1A1B1A1B1A1B1A1B1A1B1A1B1A1B1A1B1A1B1A",
   "1B7A2B1A2B2A1B1A4B1A1B1A1B1A1B1A1B6uA1B16A1B1A1B3A1B8A1B6A1B1A3B1A1B1A2B1AhB1A9BmA1BcA3B3A2B",
   "1A1B1A1B1A1B1A1B1A1B1A1B1A1B1A1B1A1B1A1B1A1B1A1B1A2B2A2B1A1B1A2B2A1fB1cA1B1A1B1A1B1A1B1A1B1A",
   "1B1A1B1A1B1A1B1A1B1A1B1A1B1A1B1A1B1A1B1A1B1A1B9A1B1A1B1A1B1A1B1A1B1A1B1A1B1A1B1A1B1A1B1A1B1A",
   "1B1A1B1A1B1A1B1A1B1A1B1A1B1A1B1A1B1A1B1A1B1A1B1A1B1A1B1A1B1A1B1A2B1A1B1A1B1A1B1A1B1A1B1A1B2A",
   "1B1A1B1A1B1A1B1A1B1A1B1A1B1A1B1A1B1A1B1A1B1A1B1A1B1A1B1A1B1A1B1A1B1A1B1A1B1A1B1A1B1A1B1A1B1A",
   "1B1A1B1A1B1A1B1A1B1A1B1A1B1A1B1A1B1A1B1A1B1A1B1A1B1A1B1A1B1A1B1A1B1A1B1A1B1A1B1A1B1A1B1A1B1A",
   "1B1A1B2A12B1cA1B26wA12B1A1B5A1BmiA6B1oiAaB6A17B2A3B8wA1B1A1B1A1B1A1B1A1B1A1B1A1B1A1B1A1B1A1B",
   "1A1B1A1B1A1B1A1B1A1B1A1B1A1B1A1B1A1B1A1B1A1B1A1B1A1B1A1B1A1B1A1B1A1B1A1B1A1B1A1B1A1B1A1B1A1B",
   "1A1B1A1B1A1B1A1B1A1B1A1B1A1B1A1B1A1B1A1B1A1B1A1B1A1B1A1B1A1B1A1B1A1B1A1B1A1B1A1B1A1B1A1B1A1B",
   "1A1B1A1B1A1B1A1B1A1B1A1B1A1B1A1B1A1B1A1B1A1B1A1B1A1B1A1B1A1B1A1B1A1B1A1B1A1B5A2B2A1B1A1B1A1B",
   "1A1B1A1B1A1B1A1B1A1B1A1B1A1B1A1B1A1B1A1B1A1B1A1B1A1B1A1B1A1B1A1B1A1B1A1B1A1B1A1B1A1B1A1B1A1B",
   "1A1B1A1B1A1B1A1B1A1B1A1B1A1B1A1B1A1B1A1B1A1B1A1B1A1B1A1B1A1B1A1B1A1B1A1B1A1B1A1B1A1B1A1B1A1B",
   "9A8B8A6BaA8B8A8B8A6BbA1B1A1B1A1B1A1B8A8BgA1cB2A3B2A6B5A3B2A6BbA4BcA5B5A3B2A6B89A1B3A2B6A1B19",
   "AgBjA1BmqAqB1f4A1cB1cA1B1A3B2A1B1A1B1A1B1A4B1A1B2A1B8A3B1A1B1A1B1A1B1A1B1A1B1A1B1A1B1A1B1A1B",
   "1A1B1A1B1A1B1A1B1A1B1A1B1A1B1A1B1A1B1A1B1A1B1A1B1A1B1A1B1A1B1A1B1A1B1A1B1A1B1A1B1A1B1A1B1A1B",
   "1A1B1A1B1A1B1A1B1A1B1A1B1A1B1A1B1A1B1A1B1A1B1A1B1A1B1A1B1A1B1A1B1A1B8A1B1A1B4A1BnylA1B1A1B1A",
   "1B1A1B1A1B1A1B1A1B1A1B1A1B1A1B1A1B1A1B1A1B1A1B1A1B1A1B1A1B1A1B1A1B1A1B1A1B1A1B1A1BjA1B1A1B1A",
   "1B1A1B1A1B1A1B1A1B1A1B1A1B1A1B1A1B1A1B1A1B1A1B3rA1B1A1B1A1B1A1B1A1B1A1B1A1B3A1B1A1B1A1B1A1B1",
   "A1B1A1B1A1B1A1B1A1B1A1B1A1B1A1B1A1B1A1B1A1B1A1B1A1B1A1B1A1B1A1B1A1B1A1B1A1B1A1B1A1B1A1B1A1B1",
   "A1B1A1B1A1B1A1BaA1B1A1B1A2B1A1B1A1B1A1B1A1B4A1B1A1B2A1B1A1B3A1B1A1B1A1B1A1B1A1B1A1B1A1B1A1B1",
   "A1B1A1B1A5B1A5B1A1B1A1B1A1B1A1B1A1B1A1B1A1B1A4B1A1B1A2B3A1B5A1B1A1B1A1B1A1BoA1BoqA28BfnkA7Bc",
   "A5BspAqBxxA14B3sA10B4cAbB1AfB1A7B1A2B1d6A1fB4dAmB27uAwBgw0AwBo80AyBl71aA"]

/-- The property Changes When Casemapped. -/
def changesWhenCasemapped : RunTable := RunTable.ofLines
  ["1tAqB6AqB1mA1BaAnB1AvB1A1sB1A2cB1AsB2AeB2A2B1A1B4A2lB1AiB6ArB1A2B1A1B1A2B3A2B1A4B1A5B2A1B1A2",
   "B2A1B7A1B2A1B1A2B3A6B5A1BaA2B4mA1B16A4B2A2B3A3B1A1B6A1B1A3B1A1B1AkB1A1bB3AxB1A5B1A3pB8A4mB1A",
   "12BaA13B26wA12B1A1B5A1B2A17B2A3BioA2eB2A6B1oiAbB5A17B2A3B55A1B3A1BgA1B35A4cB2A1B1A3aB2A6B2A1",
   "2B2A6B2A8B1A1B1A1B1A1B1AvB2A1hB1A7B1A1B3A3B1A7B3A4B2A6B4AdB5A3B1A7B89A1B3A2B6A1BrA1BhAwB3A2B",
   "mpA1gB1eeA35B1A2B1A2B7A2uB7A4B3A2BcA12B1A1B5A1BnwyA1aBiAsB3qAeB2A1qB9AfB3A3B2A5B1ApB1AuB2A2B",
   "4A7BoA2BnwA1BsA28BfnkA7BcA5BspAqB6AqBx1A28B2oA10B4A10B38AbB1AfB1A7B1A2B1AbB1AfB1A7B1A2B1c3A1",
   "fBdA1fB2lAmBaAmB26yA1sBgv4A1sBo74A1wBl70cA"]

/-- The property Changes When Lowercased. -/
def changesWhenLowercased : RunTable := RunTable.ofLines
  ["1tAqB2tAnB1A7BxA1B1A1B1A1B1A1B1A1B1A1B1A1B1A1B1A1B1A1B1A1B1A1B1A1B1A1B1A1B1A1B1A1B1A1B1A1B1A",
   "1B1A1B1A1B1A1B1A1B1A1B1A1B1A1B1A1B2A1B1A1B1A1B1A1B1A1B1A1B1A1B1A1B2A1B1A1B1A1B1A1B1A1B1A1B1A",
   "1B1A1B1A1B1A1B1A1B1A1B1A1B1A1B1A1B1A1B1A1B1A1B1A1B1A1B1A1B1A1B1A1B1A2B1A1B1A1B3A2B1A1B1A2B1A",
   "3B2A4B1A2B1A3B3A2B1A2B1A1B1A1B1A2B1A1B2A1B1A2B1A3B1A1B1A2B3A1B7A2B1A2B1A2B1A1B1A1B1A1B1A1B1A",
   "1B1A1B1A1B1A1B2A1B1A1B1A1B1A1B1A1B1A1B1A1B1A1B1A1B2A2B1A1B1A3B1A1B1A1B1A1B1A1B1A1B1A1B1A1B1A",
   "1B1A1B1A1B1A1B1A1B1A1B1A1B1A1B1A1B1A1B1A1B1A1B1A1B1A1B1A1B1A1B1A1B1A1B1A1B1A1B1A1B1A1B7A2B1A",
   "2B2A1B1A4B1A1B1A1B1A1B1A1B81A1B1A1B3A1B8A1B6A1B1A3B1A1B1A2B1AhB1A9BzA1B8A1B1A1B1A1B1A1B1A1B1",
   "A1B1A1B1A1B1A1B1A1B1A1B1A1B5A1B2A1B1A2B2A1fB1cA1B1A1B1A1B1A1B1A1B1A1B1A1B1A1B1A1B1A1B1A1B1A1",
   "B1A1B1A1B1A1B1A1B1A1B9A1B1A1B1A1B1A1B1A1B1A1B1A1B1A1B1A1B1A1B1A1B1A1B1A1B1A1B1A1B1A1B1A1B1A1",
   "B1A1B1A1B1A1B1A1B1A1B1A1B1A1B1A1B1A1B1A2B1A1B1A1B1A1B1A1B1A1B1A1B2A1B1A1B1A1B1A1B1A1B1A1B1A1",
   "B1A1B1A1B1A1B1A1B1A1B1A1B1A1B1A1B1A1B1A1B1A1B1A1B1A1B1A1B1A1B1A1B1A1B1A1B1A1B1A1B1A1B1A1B1A1",
   "B1A1B1A1B1A1B1A1B1A1B1A1B1A1B1A1B1A1B1A1B1A1B1A1B1A1B1A1B1A1B1A1B1A1B1A1B2A12B289A12B1A1B5A1",
   "Bk2A2eB1ozA1B6A17B2A3B8wA1B1A1B1A1B1A1B1A1B1A1B1A1B1A1B1A1B1A1B1A1B1A1B1A1B1A1B1A1B1A1B1A1B1",
   "A1B1A1B1A1B1A1B1A1B1A1B1A1B1A1B1A1B1A1B1A1B1A1B1A1B1A1B1A1B1A1B1A1B1A1B1A1B1A1B1A1B1A1B1A1B1",
   "A1B1A1B1A1B1A1B1A1B1A1B1A1B1A1B1A1B1A1B1A1B1A1B1A1B1A1B1A1B1A1B1A1B1A1B1A1B1A1B1A1B1A1B1A1B1",
   "A1B1A1B1A1B1A1B1A1B1A1B1A1B1A1B1A1B1A1B1A1B1A1B9A1B1A1B1A1B1A1B1A1B1A1B1A1B1A1B1A1B1A1B1A1B1",
   "A1B1A1B1A1B1A1B1A1B1A1B1A1B1A1B1A1B1A1B1A1B1A1B1A1B1A1B1A1B1A1B1A1B1A1B1A1B1A1B1A1B1A1B1A1B1",
   "A1B1A1B1A1B1A1B1A1B1A1B1A1B1A1B1A1B1A1B1A1B1A1B1A1B1A1B1A1B9A8B8A6BaA8B8A8B8A6BbA1B1A1B1A1B1",
   "A1B8A8BoA8B8A8B8A8B8A5BbA5BbA4BcA5BbA5B89A1B3A2B6A1B19AgBjA1BmqAqB1f4A1cB1cA1B1A3B2A1B1A1B1A",
   "1B1A4B1A1B2A1B8A3B1A1B1A1B1A1B1A1B1A1B1A1B1A1B1A1B1A1B1A1B1A1B1A1B1A1B1A1B1A1B1A1B1A1B1A1B1A",
   "1B1A1B1A1B1A1B1A1B1A1B1A1B1A1B1A1B1A1B1A1B1A1B1A1B1A1B1A1B1A1B1A1B1A1B1A1B1A1B1A1B1A1B1A1B1A",
   "1B1A1B1A1B1A1B1A1B1A1B1A1B1A1B8A1B1A1B4A1BnylA1B1A1B1A1B1A1B1A1B1A1B1A1B1A1B1A1B1A1B1A1B1A1B",
   "1A1B1A1B1A1B1A1B1A1B1A1B1A1B1A1B1A1B1A1B1A1BjA1B1A1B1A1B1A1B1A1B1A1B1A1B1A1B1A1B1A1B1A1B1A1B",
   "1A1B1A1B3rA1B1A1B1A1B1A1B1A1B1A1B1A1B3A1B1A1B1A1B1A1B1A1B1A1B1A1B1A1B1A1B1A1B1A1B1A1B1A1B1A1",
   "B1A1B1A1B1A1B1A1B1A1B1A1B1A1B1A1B1A1B1A1B1A1B1A1B1A1B1A1B1A1B1A1B1A1BaA1B1A1B1A2B1A1B1A1B1A1",
   "B1A1B4A1B1A1B2A1B1A1B3A1B1A1B1A1B1A1B1A1B1A1B1A1B1A1B1A1B1A1B1A5B1A5B1A1B1A1B1A1B1A1B1A1B1A1",
   "B1A1B1A4B1A1B1A2B3A1B5A1B1A1B1A1B1A1BoA1Bh7vAqBxxA14B3sA10B4cAbB1AfB1A7B1A2B1d6A1fB4dAmB27uA",
   "wBgw0AwBo80AyBl71aA"]

/-- The property Changes When Titlecased. -/
def changesWhenTitlecased : RunTable := RunTable.ofLines
  ["2pAqB1mA1B15AoB1A8B1A1B1A1B1A1B1A1B1A1B1A1B1A1B1A1B1A1B1A1B1A1B1A1B1A1B1A1B1A1B1A1B1A1B1A1B1",
   "A1B1A1B1A1B1A1B1A1B1A1B1A1B1A1B1A1B1A1B2A1B1A1B1A1B1A1B1A1B1A1B1A1B1A2B1A1B1A1B1A1B1A1B1A1B1",
   "A1B1A1B1A1B1A1B1A1B1A1B1A1B1A1B1A1B1A1B1A1B1A1B1A1B1A1B1A1B1A1B1A1B1A1B2A1B1A1B1A3B2A1B1A1B2",
   "A1B3A1B5A1B2A1B3A3B2A1B2A1B1A1B1A1B2A1B4A1B2A1B3A1B1A1B2A1B3A1B1A1B4A1B1A2B1A2B1A1B1A1B1A1B1",
   "A1B1A1B1A1B1A1B1A1B1A2B1A1B1A1B1A1B1A1B1A1B1A1B1A1B1A1B1A3B1A1B1A1B3A1B1A1B1A1B1A1B1A1B1A1B1",
   "A1B1A1B1A1B1A1B1A1B1A1B1A1B1A1B1A1B1A1B1A1B1A1B1A1B1A1B3A1B1A1B1A1B1A1B1A1B1A1B1A1B1A1B1A1B8",
   "A1B2A2B1A1B4A1B1A1B1A1B1A1B1A6B1A2B1A1B1A2B3A2B1A4B1A5B2A1B1A2B2A1B7A1B2A1B1A2B3A6B5A1BaA2B4",
   "mA1B17A1B1A1B3A1B3A3BiA1BrAzB1A2B3A3B1A1B1A1B1A1B1A1B1A1B1A1B1A1B1A1B1A1B1A1B1A1B1A5B1A1B2A1",
   "B2A1B1gA1cB1A1B1A1B1A1B1A1B1A1B1A1B1A1B1A1B1A1B1A1B1A1B1A1B1A1B1A1B1A1B1A1B1A1B9A1B1A1B1A1B1",
   "A1B1A1B1A1B1A1B1A1B1A1B1A1B1A1B1A1B1A1B1A1B1A1B1A1B1A1B1A1B1A1B1A1B1A1B1A1B1A1B1A1B1A1B1A1B1",
   "A1B2A1B1A1B1A1B1A1B1A1B1A1B1A2B1A1B1A1B1A1B1A1B1A1B1A1B1A1B1A1B1A1B1A1B1A1B1A1B1A1B1A1B1A1B1",
   "A1B1A1B1A1B1A1B1A1B1A1B1A1B1A1B1A1B1A1B1A1B1A1B1A1B1A1B1A1B1A1B1A1B1A1B1A1B1A1B1A1B1A1B1A1B1",
   "A1B1A1B1A1B1A1B1A1B1A1B1A1B1A1B1A1B1A1B1dA13B2uoA6B1oiA9B1A1B6mA1B3A1BgA1B36A1B1A1B1A1B1A1B1",
   "A1B1A1B1A1B1A1B1A1B1A1B1A1B1A1B1A1B1A1B1A1B1A1B1A1B1A1B1A1B1A1B1A1B1A1B1A1B1A1B1A1B1A1B1A1B1",
   "A1B1A1B1A1B1A1B1A1B1A1B1A1B1A1B1A1B1A1B1A1B1A1B1A1B1A1B1A1B1A1B1A1B1A1B1A1B1A1B1A1B1A1B1A1B1",
   "A1B1A1B1A1B1A1B1A1B1A1B1A1B1A1B1A1B1A1B1A1B1A1B1A1B1A1B1A1B1A1B1A1B1A1B1A1B1A1B1A1B1A1B1A1B1",
   "A1B1A7B5A1B1A1B1A1B1A1B1A1B1A1B1A1B1A1B1A1B1A1B1A1B1A1B1A1B1A1B1A1B1A1B1A1B1A1B1A1B1A1B1A1B1",
   "A1B1A1B1A1B1A1B1A1B1A1B1A1B1A1B1A1B1A1B1A1B1A1B1A1B1A1B1A1B1A1B1A1B1A1B1A1B1A1B1A1B1A1B1A1B1",
   "A1B1A1B1A1B1A9B8A6BaA8B8A8B8A6BaA8B8A8B8AeB2A8B8A8B8A8B8A5B1A2B6A1B3A3B1A2B8A4B2A2B8A8BaA3B1",
   "A2B9iA1BxAgB4A1BnfAqB1fqA1cB1A1B3A2B1A1B1A1B1A1B6A1B2A1BaA1B1A1B1A1B1A1B1A1B1A1B1A1B1A1B1A1B",
   "1A1B1A1B1A1B1A1B1A1B1A1B1A1B1A1B1A1B1A1B1A1B1A1B1A1B1A1B1A1B1A1B1A1B1A1B1A1B1A1B1A1B1A1B1A1B",
   "1A1B1A1B1A1B1A1B1A1B1A1B1A1B1A1B1A1B1A1B1A1B1A1B1A1B1A1B1A1B1A1B1A1B1A1B8A1B1A1B4A1BcA12B1A1",
   "B5A1BnwzA1B1A1B1A1B1A1B1A1B1A1B1A1B1A1B1A1B1A1B1A1B1A1B1A1B1A1B1A1B1A1B1A1B1A1B1A1B1A1B1A1B1",
   "A1B1A1BjA1B1A1B1A1B1A1B1A1B1A1B1A1B1A1B1A1B1A1B1A1B1A1B1A1B1A1B3rA1B1A1B1A1B1A1B1A1B1A1B1A1B",
   "3A1B1A1B1A1B1A1B1A1B1A1B1A1B1A1B1A1B1A1B1A1B1A1B1A1B1A1B1A1B1A1B1A1B1A1B1A1B1A1B1A1B1A1B1A1B",
   "1A1B1A1B1A1B1A1B1A1B1A1B1A1B1A1BaA1B1A1B2A1B1A1B1A1B1A1B1A1B4A1B4A1B1A2B2A1B1A1B1A1B1A1B1A1B",
   "1A1B1A1B1A1B1A1B1A1BbA1B1A1B1A1B1A1B1A1B1A1B1A1B1A1B4A1B1A1B2A1B3A1B5A1B1A1B1A1BqA1BnwA1BsA2",
   "8BfnkA7BcA5BtlAqBy5A14B3sA10B4bAbB1AfB1A7B1A2B1dvA1fB3hAmB27uAwBgw0AwBo82AyBl70cA"]

/-- The property Changes When Uppercased. -/
def changesWhenUppercased : RunTable := RunTable.ofLines
  ["2pAqB1mA1B15AoB1A8B1A1B1A1B1A1B1A1B1A1B1A1B1A1B1A1B1A1B1A1B1A1B1A1B1A1B1A1B1A1B1A1B1A1B1A1B1",
   "A1B1A1B1A1B1A1B1A1B1A1B1A1B1A1B1A1B1A1B2A1B1A1B1A1B1A1B1A1B1A1B1A1B1A2B1A1B1A1B1A1B1A1B1A1B1",
   "A1B1A1B1A1B1A1B1A1B1A1B1A1B1A1B1A1B1A1B1A1B1A1B1A1B1A1B1A1B1A1B1A1B1A1B2A1B1A1B1A3B2A1B1A1B2",
   "A1B3A1B5A1B2A1B3A3B2A1B2A1B1A1B1A1B2A1B4A1B2A1B3A1B1A1B2A1B3A1B1A1B5A2B1A2B1A2B1A1B1A1B1A1B1",
   "A1B1A1B1A1B1A1B1A2B1A1B1A1B1A1B1A1B1A1B1A1B1A1B1A1B1A2B1A2B1A1B3A1B1A1B1A1B1A1B1A1B1A1B1A1B1",
   "A1B1A1B1A1B1A1B1A1B1A1B1A1B1A1B1A1B1A1B1A1B1A1B1A1B3A1B1A1B1A1B1A1B1A1B1A1B1A1B1A1B1A1B8A1B2",
   "A2B1A1B4A1B1A1B1A1B1A1B1A6B1A2B1A1B1A2B3A2B1A4B1A5B2A1B1A2B2A1B7A1B2A1B1A2B3A6B5A1BaA2B4mA1B",
   "17A1B1A1B3A1B3A3BiA1BrAzB1A2B3A3B1A1B1A1B1A1B1A1B1A1B1A1B1A1B1A1B1A1B1A1B1A1B1A5B1A1B2A1B2A1",
   "B1gA1cB1A1B1A1B1A1B1A1B1A1B1A1B1A1B1A1B1A1B1A1B1A1B1A1B1A1B1A1B1A1B1A1B1A1B9A1B1A1B1A1B1A1B1",
   "A1B1A1B1A1B1A1B1A1B1A1B1A1B1A1B1A1B1A1B1A1B1A1B1A1B1A1B1A1B1A1B1A1B1A1B1A1B1A1B1A1B1A1B1A1B2",
   "A1B1A1B1A1B1A1B1A1B1A1B1A2B1A1B1A1B1A1B1A1B1A1B1A1B1A1B1A1B1A1B1A1B1A1B1A1B1A1B1A1B1A1B1A1B1",
   "A1B1A1B1A1B1A1B1A1B1A1B1A1B1A1B1A1B1A1B1A1B1A1B1A1B1A1B1A1B1A1B1A1B1A1B1A1B1A1B1A1B1A1B1A1B1",
   "A1B1A1B1A1B1A1B1A1B1A1B1A1B1A1B1A1B1dA13B288A17B2A3Bl4A6B1oiA9B1A1B6mA1B3A1BgA1B36A1B1A1B1A1",
   "B1A1B1A1B1A1B1A1B1A1B1A1B1A1B1A1B1A1B1A1B1A1B1A1B1A1B1A1B1A1B1A1B1A1B1A1B1A1B1A1B1A1B1A1B1A1",
   "B1A1B1A1B1A1B1A1B1A1B1A1B1A1B1A1B1A1B1A1B1A1B1A1B1A1B1A1B1A1B1A1B1A1B1A1B1A1B1A1B1A1B1A1B1A1",
   "B1A1B1A1B1A1B1A1B1A1B1A1B1A1B1A1B1A1B1A1B1A1B1A1B1A1B1A1B1A1B1A1B1A1B1A1B1A1B1A1B1A1B1A1B1A1",
   "B1A1B1A1B1A7B5A1B1A1B1A1B1A1B1A1B1A1B1A1B1A1B1A1B1A1B1A1B1A1B1A1B1A1B1A1B1A1B1A1B1A1B1A1B1A1",
   "B1A1B1A1B1A1B1A1B1A1B1A1B1A1B1A1B1A1B1A1B1A1B1A1B1A1B1A1B1A1B1A1B1A1B1A1B1A1B1A1B1A1B1A1B1A1",
   "B1A1B1A1B1A1B1A1B1A9B8A6BaA8B8A8B8A6BaA8B8A8B8AeB2A1hB1A2B4A1B1A1B3A3B1A2B4A1B3A4B2A2B8A8BaA",
   "3B1A2B4A1B9dA1BxAgB4A1BnfAqB1fqA1cB1A1B3A2B1A1B1A1B1A1B6A1B2A1BaA1B1A1B1A1B1A1B1A1B1A1B1A1B1",
   "A1B1A1B1A1B1A1B1A1B1A1B1A1B1A1B1A1B1A1B1A1B1A1B1A1B1A1B1A1B1A1B1A1B1A1B1A1B1A1B1A1B1A1B1A1B1",
   "A1B1A1B1A1B1A1B1A1B1A1B1A1B1A1B1A1B1A1B1A1B1A1B1A1B1A1B1A1B1A1B1A1B1A1B1A1B1A1B8A1B1A1B4A1Bc",
   "A12B1A1B5A1BnwzA1B1A1B1A1B1A1B1A1B1A1B1A1B1A1B1A1B1A1B1A1B1A1B1A1B1A1B1A1B1A1B1A1B1A1B1A1B1A",
   "1B1A1B1A1B1A1BjA1B1A1B1A1B1A1B1A1B1A1B1A1B1A1B1A1B1A1B1A1B1A1B1A1B1A1B3rA1B1A1B1A1B1A1B1A1B1",
   "A1B1A1B3A1B1A1B1A1B1A1B1A1B1A1B1A1B1A1B1A1B1A1B1A1B1A1B1A1B1A1B1A1B1A1B1A1B1A1B1A1B1A1B1A1B1",
   "A1B1A1B1A1B1A1B1A1B1A1B1A1B1A1B1A1B1A1BaA1B1A1B2A1B1A1B1A1B1A1B1A1B4A1B4A1B1A2B2A1B1A1B1A1B1",
   "A1B1A1B1A1B1A1B1A1B1A1B1A1BbA1B1A1B1A1B1A1B1A1B1A1B1A1B1A1B4A1B1A1B2A1B3A1B5A1B1A1B1A1BqA1Bn",
   "wA1BsA28BfnkA7BcA5BtlAqBy5A14B3sA10B4bAbB1AfB1A7B1A2B1dvA1fB3hAmB27uAwBgw0AwBo82AyBl70cA"]

/-- The property Dash. -/
def dash : RunTable := RunTable.ofLines
  ["19A1B124A1B1fA1B2tdA1BslA1B1l5A6B1pA1B13A1BfA1BauA1B2dgA1B2A1BvA2B4A1BsA1BceA1BjA1B33A1B14ls",
   "A2B11A1BaA1B4pA1B2u8A1B8uA1Bme6qA"]

/-- The property Default Ignorable Code Point. -/
def defaultIgnorableCodePoint : RunTable := RunTable.ofLines
  ["4tA1BipA1BjwA1B282A2B18zA2B2dA5B1krA5BqA5B1dAgB3ckA1B14ezAgB6nA1B4gA1B27A9B119jA4B43zA8Bh405",
   "A35sB44jkA"]

/-- The property Deprecated. -/
def deprecated : RunTable := RunTable.ofLines
  ["95A1B10pA1B1s3A1B1A1B1m1A2B1qdA6BjdA2Bjh06A1B47paA"]

/-- The property Diacritic. -/
def diacritic : RunTable := RunTable.ofLines
  ["2mA1B1A1B1zA1B6A1B4A1B2A2BdzA4fB1A8B5A6BhA2B4A1B9A2B71A5B5tA1B1jAhB1ArB1A1B1A2B1A1B3qA8B4A2B",
   "3qA2B4A2B3A3B1vArB2jAbB1mAbByA2B3iA8B15AaBgAsB1pA1BgA1B3A4BsA1B22A1BgA1B32A1BgA1B32A1BgA1B1b",
   "A3B1oA1BgA1B7A1B3bA1B32A1BgA1B32A1BgA1B31A2BgA1B3gA1B33A1BcA6B1A1B2zA1BdA5B23A2BrA1B1A1B1A1B",
   "4A2B1uA3B1A2B1qA1B34A1B1A2B14A2B4A5BpA7B1A1BaA2BjlA3BqcA2BuA1B44AbB9A1B9nA3B84A1BkA8B2A1B1cA",
   "fB2AbB2wA1BfA1B12A9B1iA2B1mA1BbA2B1uA2B1sA6B2aApB4A1B6A1B2A3B1eA1rB2hAcB11AbBcdA1B1A3BbA3BdA",
   "3BdA3BdA2B2k0A3B8tA1Be2A6B2xA4B2nA1Bn76A1BcA2B1A1BsA2B2aA2BeAyB2uA3B31A2BcA1B11A1B47A1BrAiB1",
   "lA4B10A1B2nA1BcA1B10A1B45A3B1tA4B1fA1B2sA5B9A3B3kA2Bfn4A1BldAgB7iA1B1A1B1bA1B19A2B1vA1Bl8A1B",
   "wvA6B1A16B1A9BhpA3B4A1B4lA2BfvA6B12A1BqA5Bb3A3B1yAbB1dA4B5cA1B15A1B20A2B3cA2B1qA1B24A1B9A3B2",
   "wA2B4yA2B28A2BgA1BoA7B3A5B2hA3B1A2BdA2B2nA1B3A1B3fA2B6zA2B3iA1B3aA2B37A1B7hA2B76A2B4A1B4cA1B",
   "2bA1BiA1B29A1BbpA1B76A1B1A2B29A1BbtA2BnA1B44sAfB8uxA1B1xcA5B1nA7BfoA2Bf6AhB28A2Bcn2A4B1A7B1A",
   "2B64hA1aB2AnBf4A3B3A6B8A8B2A7BuA4B2v6A1qB5eA7BafA1B1pA4BlaA2BkgA7B31A3B1A3Bl705A"]

/-- The property Emoji. -/
def emoji : RunTable := RunTable.ofLines
  ["zA1B6A1B5AaB33A1B4A1B68dA1BcA1B60A1BmA1B2iA6BfA2Ba7A2BcA1B4mA1BpAbB4A3B5jA1B6fA2BaA1B9A1B1mA",
   "4B1A5B9A1B2A1B2A2B2A1B4A1B2A1B1A2B2A1B3A1B3A2B8A3B5A1B1A1B5AcBbA2B2A1B1A2B1A1BiA1B2A2BiA6B1A",
   "1B1A2B3A2B5A1B2A2B4A2BbA2B5A2B2A1B5A2B1A1B1A2BkA2B5A6B1A4B2A1B4A1B2A1B2A6B1A1B2A1B1A1B1A1B6A",
   "1B3A1B6A1BaA2BfA1B2A1B4A1B1A1B4A3B1A1BbA2B1cA3B9A1BeA1BeA1BacA2BcvA3BjA2B1fA1B4A1ByiA1BcA1Bg",
   "pA1B1A1B2fzeA1B5mA1B4gA2BcA2BeA1B2AaB23AqB1A2BnA1BkA1B2A9BlA2B4uAyB2A34B2A2B1A3B2A2bB2A3B1A7",
   "bB1A1rBbA6B1AoB7A2B2A8BcA1B2A4B2A1B4A2BdA2B2A1B8A2B9A1B5A3BcA3B8A3B2A1B1A1B4A1B6A1B3A1B6A2eB",
   "1cA1yB5A8B2A3B4AaB3A1B1A2B3A1B2AaB6bAcB4A1B7vA1bB1AaB1A55B34AdB3AaB5A1kB7AfB2AbB6A9Bl3ifA"]

/-- The property Emoji Component. -/
def emojiComponent : RunTable := RunTable.ofLines
  ["zA1B6A1B5AaB6abA1B5xA1B17orA1B1c5yAqBe3A5B14gA4Bgw30A2oB47lsA"]

/-- The property Emoji Modifier. -/
def emojiModifier : RunTable := RunTable.ofLines
  ["2qrfA5Bl4w0A"]

/-- The property Emoji Modifier Base. -/
def emojiModifierBase : RunTable := RunTable.ofLines
  ["7j1A1B63A1BgA4B2iyfA1B1oA3B2A1B2A3B39A2B2AbBlAjB3A1B4A3B1A3B7A1B1A1BoA1B5lA2B4A1BlA1B4A2B4uA",
   "3B3A5B2bA1BgA3B9A1BbA1BfzA1B2A1B8A8B6A1B9AaB2A3B1kA1B1pA2B1A2B1A1BhA3B1AdB6dA3B16A9Bl3ifA"]

/-- The property Emoji Presentation. -/
def emojiPresentation : RunTable := RunTable.ofLines
  ["6xmA2B5pA4B3A1B2A1BehA2BlA2B1eAcB17A1BjA1BdA1B8A2BhA2B5A2B8A1B5A1BlA1B7A2B1A1B4A1B2A1B7A1B4A",
   "2BsA1BzA1B1A1B4A3B1A1B1pA3BoA1BeA1BnvA2B1fA1B4A1B2hf2A1B5mA1B5aA1B2AaB23AqB1A1BoA1BkA1B2A5B1",
   "A3BlA2B4uAxBcA9B1A1yB1AmBcA17B4A5BcAhB3A1B3A1zB1A1B1A57B2A1rBdA4B1AoBiA1BqA2BdA1B2eA2dB1cA1y",
   "B6A1B3A3B2A3B4A4BbA2B7A9B6bAcB4A1B7vA1bB1AaB1A55B34AdB3AaB5A1kB7AfB2AbB6A9Bl3ifA"]

/-- The property Extended Pictographic. -/
def extendedPictographic : RunTable := RunTable.ofLines
  ["4pA1B4A1B68dA1BcA1B60A1BmA1B2iA6BfA2Ba7A2BcA1B2nA1B1yA1BpAbB4A3B5jA1B6fA2BaA1B9A1B1mA4B1A6B1",
   "AcB1A36BaA3aB2AbB1A1B1A1B6A1B3A1B6A1BaA2BfA1B2A1B4A1B1A1B4A3B1A1BbA5B19A3B9A1BeA1BeA1BacA2Bc",
   "vA3BjA2B1fA1B4A1ByiA1BcA1BgpA1B1A1B2fzaA74BdA3BvA1B1oA6BcA2BeA1B2AaBiA1lBrAfBaA1BkA1B2A9B1A4",
   "B9Ac2B5A8uB8A7eB1cA3kB38AcB2dA17BcA4B1kA8BaA6B14A8BuA2aBcA1bB1AaB1Ac9B74AseBl2iqA"]

/-- The property Extender. -/
def extender : RunTable := RunTable.ofLines
  ["53A1BewA2BoeA1Bc9A1BhiA1B3tA1B2hA1BkwA1B3jA1B1tvA1B1kA1BgzA1Bb2A1B1wA1B3uxA1B17A5B2vA2B2lA3B",
   "lxyA1B16eA1BqqA1BmA1B3tA1B30A1BlA2BgorA1B1lcA2B157A1BrA1B4A1BxzA1B85A1B38A2BduA3By7A1BfxlA2B",
   "wsA2B1A1Bme0A2BxdA1BnoA3Bl709A"]

/-- The property Grapheme Base. -/
def graphemeBase : RunTable := RunTable.ofLines
  ["wA2nBxAdB1AgiB34A8B2A6B4A7B1A1B1AkB1A68B7A4mB1A12B2A1eB2A3B1aA1B1A1B2A1B2A1B9ArB4A6BhAaBbA1B",
   "1A1aBlAgB1A2tB8A1B6A2B2A1B4AwB2A1B1AuBtA2hBbA1BeA17B9A7B3AoB4A1B9A1B3A1B7AfB1ApB5A1B1AbB5AvB",
   "hA16B1lA1jB1A1B1A4B8A4B1A3B7AaB2AtB1A2B1A8B2A2B2AmB1A7B1A1B3A4B3A1B1A2B6A2B2A2B1A1BdA2B1A3B4",
   "AoB5A1B1A6B4A2B2AmB1A7B1A2B1A2B1A2B4A3BoA4B1A1B7AaB2A3B1A1BcA1B1A9B1A3B1AmB1A7B1A2B1A5B3A4B8",
   "A1B1A2B3A1BfA2B4AcB7A1B8A2B1A8B2A2B2AmB1A7B1A2B1A5B3A1B2A1B6A2B2A2BfA2B1A3B4AiBbA1B1A6B3A3B1",
   "A4B3A2B1A1B1A2B3A2B3A3B3AcB5A1B1A2B3A3B1A3B3A1BlAlB6A3B1A8B1A3B1AnB1AgB3A1B3A4BjA3B2A1B2A2B4",
   "AaB7AaB1AbB1A3B1AnB1AaB1A5B3A2B2A1B1A2BoA2B1A2B4AaB1A3BeAbB1A3B1A15B2A1B1A2B5A3B1A3B1A2B4A3B",
   "1AaB4AqB2A2B1AiB3AoB1A9B1A1B2A7B9A2B6A7B7AaB2A3BcA1cB1A2BbA8B8AdB11A2B1A1B1A5B1AoB1A1B1AaB1A",
   "2B9A1B2A5B1A1B9AaB2A4BwAoB2ArB1A1B1A1B1AeB1A10BiA1B5A1B2A5B1dA8B1A6B1AdB11A19B4A1B6A1B2A2B2A",
   "pB2A4B3AgB4AdB1A2B2A6B1AfB1A14B1A1B5A1B2AahB1A4B2A7B1A1B1A4B2A15B1A4B2AxB1A4B2A7B1A1B1A4B2Af",
   "B1A1lB1A4B2A1vB5AtB3AqB6A2eB2A6B2AilB3A2hB7AiBdAjB3A2B9AiBeAdB1A3BfA1gB2A1B7A8B1A2BbA9B3AaB6",
   "AaB6AbB5AaB6A2hB7A5B2AyB1A1B5A1yBaAvB4A4B2A3B4A2B1A6B7A1B3A16B2A5BbA18B4AqB6AbB3A1lB2A2B3A1k",
   "B1A1B9A1B1A2B8A6BdAaB6AaB6AeB2eA1cBaA4B3A8B1AtB9AcB2AwB4A2B6A1kB1A1B2A3B1A1BdA1cB8A2B5AfB3A1",
   "qB5A17B2AbBbA1BdA1B7A4B1A6B1A3B2A1B5A5cB1sA7qB2A6B2A12B2A6B2A8B1A1B1A1B1A1B1AvB2A1hB1AfB1AeB",
   "2A6B1AjB2A3B1A9B1AbB5AoB7A1dBgA2B2ArB1AdB3AxB1rA3wB4AiiBmAbBlA1ecB2AwB1A9kB3A2B5A19B1A1B5A1B",
   "2A1kB7A2BfAnB9A7B1A7B1A7B1A7B1A7B1A7B1A7B1A7BxA2mByAqB1A2hBcA5yBqA1mB6AgB1A2eB4A2tB5A17B1A2m",
   "B1A2eB9A1cB1AmlpB3A1jB9A9oBkA1bB4A1BaAwB2A28B2A6B8A5qB2A2B1A1B1A8BlAgB1A3B1A4B1ApB2A5B4AaB6A",
   "1kB8A1wBaAcBoAdB1A12B8ApBbA1BcAuB6A1cB1A2B4A2B2A2B1AdB1AbB4A7B1ApB1A15B6A2B2A2BbA3B1A8B1A1B2",
   "AaB2AwB1A1fB1A1B3A2B2A5B2A1B1A1BoAhB2A8BbA6B2A6B2A6B9A7B1A7B1A1oB4A39B1A2B1A4B3AaB6A8mcBcAnB",
   "4A1dB6isAa6B2A2yB12A7BcA5B5A1B1AoB1A5B1A1B1A2B1A2B1A3hBgAcdB2A1iB7A1BwAgBgAaBmAzB1AjB1A4B4A5",
   "B1A3rB4A4dB2AvB3A6B2A6B2A6B2A3B3A7B1A7BdA2B2AcB1AqB1AjB1A2B1AfB2AeByA3fB5A3B4A19B3A2gB1AdB3A",
   "1B1bA19B3nAtB3A1dBgArB4A10B9AuB5A12BaAuB1A11B4AeB16A4eB2AaB6A10B4A10B4A14B8A1gBbAcB1AfB1A7B1",
   "A2B1AbB1AfB1A7B1A2B3A1gBcA8nB9AmBaA8BoA6B1A16B1A9B1xA6B2A1B1A18B1A2B3A1B2AnB1A20B8A9B1cAjB1A",
   "2B5AxB3ArB5A1B1sA1kB4AkB2A1bBfA4B1A3B1AtBaA9B7A9B7A1sBwA11B6AcB9A1iB3AtB2ArB5AqB7A4BcA7B28A2",
   "1B1jA1fBdA1fB7A16BcAaB6A12B8AoB8A2B5sAvB1A16B3A1B2A2BgA3B1nA14B8AmBbA9BmAiB4A4B12AsBkAnB9A1B",
   "1A1iBfA7B4AuB1A2B2A1BcA1dB4A2B2A2B1A4BeApB7AaB9A10B5A1B9AiB8AzB1A3BbA1gB9A1B1A8B4A2B1AgB1AkB",
   "bAiB1AsB3A2B4A6B1A2B1rA7B1A1B1A4B1AfB1AbB6A1bB1A3BdAaB8A2B1A8B2A2B2AmB1A7B1A2B1A5B3A1B1A1B1A",
   "4B2A2B2A2B3A1BcA7BsAaB1A1B2A1B1A12B1A1B1A2BfA1B1A2B3A1B1A3B1A2B13A1kB8A2B3A1B1AlB1A1B1A3BuA1",
   "cB1A2B6A1B1A2B1A1B2A1B2A4B8AaB4mA1bB1A2B6A4B2A1B2ArB10A1fB8A2B1A1B2A4BbAaB6AdBjA17B1A1B1A2B8",
   "A2B6AaB6AkBsArB3A1B1A2B4A1B9AnB55A1bB9A1B2A1B2sA2bBcA8B2A1B2A8B1A2B1AoB1A5B1A2B6A4B1A3B9AaB1",
   "yA8B2A16B8A4B1A4BrA1BaA14B6A2B4A8B9A1B6A2B3A1aBdA1B2A9BdA21B7AaB52AyBeAaB6A9B1A12BeA1B1A6BaA",
   "tB3AwBpA1B7A1B2A1B23A7B1A2B1A12BlA1B9AaB6A6B1A2B1A11B4A2B1A1B1A1B7AaB8mAjB2A4B9AfB1A10B8A2B3",
   "AnB2eA1BfA1eBdApnB2uA33B1A5BbA5gB218A2rBdAtsBhA6BpA32zB5Ag7B5a1AuBcA3B3AaB1c6AftB7AvB1AaB4A2",
   "9B1AaB6AuB7A1BaA1cB7AfBaAaB1A7B1AlB5AjBc0A1mB5iA2jB2tA23B5A1kBbAdB1sA4BsA4qgB8AyeB15AaB6w7A4",
   "B1A7B1A2B1A83BfA1BtA3B2A1BeA4B8Ab0B1s4A2zB5AdB3A9B7AaB2A1B2A1B31cA6yB6Ac4B4cA38B1oA6uBaA13B2",
   "A1oB5A3BmA2B7AuB4A1pBlA1uB3A1B3eAkBcAkBcA2fB9ApB3rA2dB1A1zB1A2B2A1B2A2B2A4B1AcB1A1B1A7B1A1tB",
   "1A4B2A8B1A7B1AsB1A4B1A5B1A1B3A7B1A9gB2A84B2AfmB1jA4B1eA8B1AeB1A7BvoAvB6A6B79A1qB42A19BaA7B2A",
   "aB4A2B8wAuBiA18B4AaB5A1BcwAsB4AaB5yAuB2AbB4A1BdcA7B1A4B1A2B1AfB1A5hB2A9B1cA1wB7A1B4AaB4A2Blt",
   "A1wB24A1pB5eA4B1ArB1A2B1A1B2A1B1AaB1A4B1A1B1A1B6A1B4A1B1A1B1A1B1A3B1A2B1A1B2A1B1A1B1A1B1A1B1",
   "A1B1A2B1A1B2A4B1A7B1A4B1A4B1A1B1AaB1AhB5A3B1A5B1AhB1gA2B7iA18B4A2sBcAfB2AfB1AfB1A11BaA4uB1kA",
   "tBdA18B4A9B7A2BeA6B4aArcB4AhB3AdB3A3bB4A2nB6AcB4A1BfAcB4A1kB8AaB6A14B8AuB2AcB4A2B1qA9gBcAeB2",
   "AdB3AaB5A1kB7AfB2AbB6A9B7A43B1A2uBsmAwyoBwA37eB6A66B2A4g2BeA5rlBfAhaB1wiAf2B15uA3t7B5A38gBjg",
   "wgA"]

/-- The property Grapheme Extend. -/
def graphemeExtend : RunTable := RunTable.ofLines
  ["lcA34B7nA7B7bA19B1A1B1A2B1A2B1A1B20AbB1cAlBgA1B2tA7B2A6B2A2B1A4BzA1BuArB2jAbB1mA9B9A1BoA4B1A",
   "9B1A3B1A5B17A3B1nA9B16AoB1AwB1jA1B1A1B4A8B4A1B3A7BaA2BtA1B1mA1B1A1B2A4B8A1B9A1BaA2BqA1B2A2B1",
   "lA1B4A2B4A2B2A3B3A1BuA2B3A1BbA2B1lA1B4A5B1A2B4A1BkA2BmA6B1A1B1mA1B1A2B1A4B8A1B7A3BaA2BuA1B1n",
   "A1B1A1BcA1B9A1B14A1B3A1B1jA1B1A3B5A3B1A4B7A2BbA2BtA1B1mA1B2A2B1A1B3A3B1A4B7A2BbA2BsA2B1lA2B1",
   "A1B2A4B8A1B9A1BaA2BtA1B20A1B4A1B2A3B1A1B8A1B29A1B2A7BcA8B2qA1B2A9BbA7B21A2BrA1B1A1B1A1B1jAeB",
   "1A5B1A2B5AbB1A10B9A1B2uA4B1A6B1A2B2A2BpA2B4A3BgA4BdA1B2A2B6A1BfA1BjjA3BqaA4BsA3BtA2BuA2B1sA2",
   "B1A7B8A1B2AbB9A1B19A3B1A1B39A2ByA1B3aA3B4A2B9A1B6A3B63A2B2A1B1mA1B1A7B1A1B1A1B2A8B6AaB2A1B1c",
   "AvB1dA4B1cAaB4A3B12A9BcA2BwA4B2A6B1kA1B1A2B3A1B1A5B1kA8B2A2B48A3B1AdB1A7B4A1B6A1B3A2B5iA1sBe",
   "kA1B5fAxB2daA3B3xA1B2oAwBfeA6B2xA2Bn9wA4B1AaBwA2B28A2B7kA1B3A1B4A1BpA2B5A1B47A2BqAiBdA1B12A8",
   "BpAbB1A1B18A3B1cA1B2A4B2A2B2A1B10A1B1vA6B2A2B2A2BcA1B8A1B1bA1B1fA1B1A3B2A2B5A2B1A1B16A2B8A1B",
   "6mA1B2A1B4A1Bfn4A1BkhAgBgAgBa6A2BgtA1B6aA1B45A5B1aeA3B1A2B5A4B14A3B4A1B4lA2BfxA4B1tA5B8tA2B2",
   "7A4B1yAbB1dA4B3fA1B1iAfB15A1B2A2BaA3B1dA4B2A2B7A1B1pA3B10A5B1A8B1qA1BcA2B1gA9B1A1B8A4B2A1B2n",
   "A3B2A4B6A1B2A1B4dA1B3A8BlA2B1lA2B1A1B1A1BcA1B9A1BeA7B3A5B1vA1B2A6B1A1B2A1B1A3B4A3B1A1BeA2B2d",
   "A8B2A3B1A1BnA1B29A1B2A6B1A1B2A1B1A2B1A2B6jA1B2A4B6A2B1A2BrA2B2dA8B2A1B1A2B2yA1B1A1B2A8B2tA1B",
   "1A1B2A4B1A5B77A9B1A2B6tA1BaA4B4A1B40A4B2A2B4A1BwAaB14A6B2A4B8A1B9A6B2A3B1aAdB1A2BbaA7B1A6B1A",
   "1B2aAmB2A7B1A2B1A2B3eA6B3A1B1A2B1A7B1A1B20A2B3A1B1A1B9nA2BbA2B1gA5B5A3BnA1B44lA1B6AfB8ugAcB3",
   "A3B1xcA5B1nA7Bt4A1B1rA4B29A1BbA2Bf57A2B3mpA1aB2AnBf2A5B3A6B8A8B2A7BuA4B44A3B1izA1jB4A1eB8A1B",
   "eA1BmA5B1AfB11sA7B1AhB2A7B1A2B1A5B2sA1B4gA7BafA1B1pA4Be4A4B72A2BkgA7B31A7BgzbpA2oB3kA6oB47bk",
   "A"]

/-- The property Grapheme Link. -/
def graphemeLink : RunTable := RunTable.ofLines
  ["1u5A1B3jA1B3jA1B3jA1B3jA1B3jA1B3jA1B3jA1B31A2BgA1B3gA1B33A1B3jA1B5lA1B50A2B1cpA2BuA1B4dA1Bi5",
   "A1B6bA1B2tA2B1yA2B3grA1Bo7aA1B11A1B47A1B3yA1B30A1B8lA1B6uA1BimpA1B16uA1B15A1BeA1B1lA1B3dA2B3",
   "vA1B38A1B50A1B2qA1B3kA3B35A1B3jA1B70A1B3jA1B3aA1B38A1B7hA1B77A2B4hA1B2bA1BiA1B29A1BbpA1B78A2",
   "B29A1BbtA2Bd0sA1Blxw0A"]

/-- The property Hex Digit. -/
def hexDigit : RunTable := RunTable.ofLines
  ["1cAaB7A6BqA6B1eaxAaB7A6BqA6Bmh89A"]

/-- The property Hyphen. -/
def hyphen : RunTable := RunTable.ofLines
  ["19A1B3jA1BykA1B3nfA1B1l5A2B2rpA1BkjA1B14knA1B4pA1B2fA1Bmh7eA"]

/-- The property ID Compat Math Continue. -/
def idCompatMathContinue : RunTable := RunTable.ofLines
  ["4yA2B5A1B69iA1B3AbB1AfBabA1B4A1BmA1B2e8yA1BpA1BvA1BpA1BvA1BpA1BvA1BpA1BvA1BpA1BlagsA"]

/-- The property ID Compat Math Start. -/
def idCompatMathStart : RunTable := RunTable.ofLines
  ["6puA1B4A1BmA1B2e8yA1BpA1BvA1BpA1BvA1BpA1BvA1BpA1BvA1BpA1BlagsA"]

/-- The property ID Continue. -/
def idContinue : RunTable := RunTable.ofLines
  ["1cAaB7AqB4A1B1AqB1bA1BaA1B1A1B2A1B5AnB1AvB1AcqB4AcBeA5B7A1B1A1BhA39B1A2B2A4B1A1B6A5B1A1B1AkB",
   "1A2bB1A3vB1A5B2A4mB1A12B2A1B6A15B8A19B1A1B1A2B1A2B1A1B8ArB4A4BtAbB5A22B4A2uB1A8B2AaB1AjB2A1B",
   "gA1nB2A2tBeA1iB4A1B2A1B2A1aBiAsB4AbB5AoB1A6B8A23B1A3lB2AaB1AjB1A8B2A2B2AmB1A7B1A1B3A4B2A9B2A",
   "2B2A4B8A1B4A2B1A5B2AcBaA1B1A1B2A3B1A6B4A2B2AmB1A7B1A2B1A2B1A2B2A1B1A5B4A2B2A3B3A1B7A4B1A1B7A",
   "gBbA3B1A9B1A3B1AmB1A7B1A2B1A5B2AaB1A3B1A3B2A1BfA4B2AaB9A7B1A3B1A8B2A2B2AmB1A7B1A2B1A5B2A9B2A",
   "2B2A3B7A3B4A2B1A5B2AaB1A1BgA2B1A6B3A3B1A4B3A2B1A1B1A2B3A2B3A3B3AcB4A5B3A3B1A4B2A1B6A1BeAaBgA",
   "dB1A3B1AnB1AgB2A9B1A3B1A4B7A2B1A3B2A1B2A4B2AaBgA4B1A8B1A3B1AnB1AaB1A5B2A9B1A3B1A4B7A2B6A2B1A",
   "4B2AaB1A3BcAdB1A3B1A1fB1A3B1A5B5A4B7A5B2AaBaA6B1A3B1AiB3AoB1A9B1A1B2A7B3A1B4A6B1A1B1A8B6AaB2",
   "A2BdA1mB5AfB1AaB13A2B1A1B1A5B1AoB1A1B1AnB2A5B1A1B1A7B1AaB2A4BwA1BnA2B6AaBbA1B1A1B1A1B4AaB1A1",
   "0B4AkB1AiB1A10B9A1B1lA22B6A26B2A12B1A1B5A1B2A17B1A99B1A4B2A7B1A1B1A4B2A15B1A4B2AxB1A4B2A7B1A",
   "1B1A4B2AfB1A1lB1A4B2A1vB2A3B9A9BeAgBgA2eB2A6B3Ah8B2AhB1AqB5A23B3AbB7AmB9AmBbAkBcAdB1A3B1A2Bc",
   "A2cB3A1B4A2B2AaBxA3B1AbB6A2hB7A17B5A1yBaAvB1AcB4AcBaA14B2A5BbA18B4AqB6AbB11AsB4A1rB1AtB2AbB6",
   "AaBdA1B8AeB1AgB1dA25B3AaBhA9BcA38BcA1kB8AaB3A1dB2AbB5A17B2A3BgA3B1A13B5AeuB2A6B2A12B2A6B2A8B",
   "1A1B1A1B1A1B1AvB2A1hB1A7B1A1B3A3B1A7B3A4B2A6B4AdB5A3B1A7BfA2B1dA2BjA1BsA1BdA1BgAdB1fAdB4A1B3",
   "AcBhA1B4A1B2AaB1A1B2A6B6A1B1A1B1A1B1AgB2A4B5A5B4A1BhA15B22fA6dB6A9BcA12B1A1B5A1B2A1kB7A1BfAo",
   "B9A7B1A7B1A7B1A7B1A7B1A7B1A7B1A7B1AwBedA3BpAfB1A5B2A5B4A2eB2A7B1A2nB5A17B1A2mBhAwB1cAgBe8A53",
   "4B1sAh3hB1vA1aB2A7hB3AsBkA1cB4AaB1A37B11A9B2A2vB2A1vB2A2B1A1B1A8BlA1iB4A1BjA1gBcA1yBaAaB6AoB",
   "3A1B1A1dB2A10BcAtB3A1tBeAbB6AvB1A1jB9AeB2AaB6AnB3A21BoA3B2AgB2A5BaA6B2A6B2A6B9A7B1A7B1A17B1A",
   "eB6A3fB1A2B2AaB6A8mcBcAnB4A1dB6isAa6B2A2yB12A7BcA5B5AcB1AdB1A5B1A1B1A2B1A2B1A30BxAa3BiA1sB2A",
   "1iB14AcB4AgBgAgB3A2BoA3BwA5B1A3rBjAaB7AqB4A1B1AqBaA2iB3A6B2A6B2A6B2A3BzAcB1AqB1AjB1A2B1AfB2A",
   "eByA3fB1xA1hB3sA1B3mAtB3A1dBfA1BvAwBdAuB5A17B5AuB2A10B4A8B1A5B16A4eB2AaB6A10B4A10B4A14B8A1gB",
   "cAbB1AfB1A7B1A2B1AbB1AfB1A7B1A2B3A1gBcA8nB9AmBaA8BoA6B1A16B1A9B1xA6B2A1B1A18B1A2B3A1B2AnBaAn",
   "B9AvB1tAjB1A2BaAmBaAqB1yA1kB6A2B1sA4B1A2B5A8B1A3B1AtB2A3B4A1BwAtB3AtBzA8B1AuBpA1iBaAmBaAjBdA",
   "iB32A21B1jA1fBdA1fBdA14B8AaB6A12B3A5B1AnB6yA16B1A2B3A2BgA3B1jAxBaA1B8AxBvAmB16AlBrAnB9A1zBvA",
   "gB9A1oB7A1BdApB7AaB6A1hB1AaB4A4B8A10B2A1B9A1xB4A4B1AdB1A1BzAiB1A11B6A4B1qA7B1A1B1A4B1AfB1AaB",
   "7A1nB5AaB6A4B1A8B2A2B2AmB1A7B1A2B1A5B1AaB2A2B2A3B2A1B6A1B5A7B2A7B3A5BbAaB1A1B2A1B1A12B1AaB1A",
   "1B2A1B1A4B1A8BdA2BtA23B5AaB4A4BuA1yB1A1B8AaB4mA1iB2A9BnA6ByA1tB3A1BbAaB12A1lB7AaB6AkBsArB2Af",
   "B4AaB6A7B55A1nB2tA22BlA8B2A1B2A8B1A2B1AuB1A2B2A9BcAaB1yA8B2A1aB2A8B1A2BrA1rB8A1B8A22B3A1BiA2",
   "1B5jAxBfAaB6A9B1A19B1A9BfAaBoAuB2AmB1AeB21A7B1A2B1A18B3A1B1A2B1A9B8AaB6A6B1A2B1A11B1A2B1A6B7",
   "AaB8mAnB9AhB1A15B3A5BdAbB2dA1B27ApmB2uA33BhA5gB218A2pBfAtsBgAmBaA32zB5Ag7B5a1A1mB1c6AftB7AvB",
   "1AaB6A27B1AaB6AuB2A5BbA1jB9A4BcAaB9AlB5AjBc0A19B3AaB5iA1sB3kA23B4A1lB7AhB1sA2B1A2BbA2BeA4qgB",
   "8AyeB15AaB6w7A4B1A7B1A2B1A83BfA1BtA3B2A1BeA4B8Ab0B1s4A2zB5AdB3A9B7AaB3A2B381AaBeeA1aB2AnBf2A",
   "5B3A6B8A8B2A7BuA4B44A3BcbA2dB1A1zB1A2B2A1B2A2B2A4B1AcB1A1B1A7B1A1tB1A4B2A8B1A7B1AsB1A4B1A5B1",
   "A1B3A7B1A9gB2ApB1ApB1AvB1ApB1AvB1ApB1AvB1ApB1AvB1ApB1A8B2A1eBe8A1jB4A1eB8A1BeA1BmA5B1AfBuoAv",
   "B6A6B5xA7B1AhB2A7B1A2B1A5B5A1qBxA1B34A19B3AeB2AaB4A1B8xAvBhA1mBd2A16B5yA17BdhA7B1A4B1A2B1AfB",
   "1A5hBbA7B15A24B4AaBx2A4B1ArB1A2B1A1B2A1B1AaB1A4B1A1B1A1B6A1B4A1B1A1B1A1B1A3B1A2B1A1B2A1B1A1B",
   "1A1B1A1B1A1B1A2B1A1B2A4B1A7B1A4B1A4B1A1B1AaB1AhB5A3B1A5B1AhB2lwAaBsmAwyoBwA37eB6A66B2A4g2BeA",
   "5rlBfAhaB1wiAf2B15uA3t7B5A38gBf9e8A6oB47bkA"]

/-- The property Ideographic. -/
def ideographic : RunTable := RunTable.ofLines
  ["9hiA2BpA9BeA3BqtA534B1sAg74BhkwAa6B2A2yBn4aA1BrA4qgB8AyeB15AaB76vAb0Bf7oAwyoBwA37eB6A66B2A4g",
   "2BeA5rlBfAhaB1wiAf2B15uA3t7B5A38gBjgwgA"]

/-- The property IDS Binary Operator. -/
def idsBinaryOperator : RunTable := RunTable.ofLines
  ["9gwA2B2AaBdtA1BnlsgA"]

/-- The property ID Start. -/
def idStart : RunTable := RunTable.ofLines
  ["1tAqB6AqB1bA1BaA1B4A1B5AnB1AvB1AcqB4AcBeA5B7A1B1A1B3lA5B1A2B2A4B1A1B6A1B1A3B1A1B1AkB1A2bB1A3",
   "vB8A4mB1A12B2A1B6A15B1zArB4A4B19A17BzA2B1A2rB1A1BfA2B7A2BaA3B2A1BgA1B1AuBtA2hBbA1BoAxB9A2B4A",
   "1B5AmB4A1B9A1B3A1BnApB7AbB5AoB1A6BhA16B1mA1iB3A1BiA1B7AaBfAgB4A8B2A2B2AmB1A7B1A1B3A4B3A1BgA1",
   "BdA2B1A3BeA2BaA1B8A6B4A2B2AmB1A7B1A2B1A2B1A2BvA4B1A1BjA3BgA9B1A3B1AmB1A7B1A2B1A5B3A1BiA1BfA2",
   "BnA1BbA8B2A2B2AmB1A7B1A2B1A5B3A1BuA2B1A3BfA1BhA1B1A6B3A3B1A4B3A2B1A1B1A2B3A2B3A3B3AcBmA1B1gA",
   "8B1A3B1AnB1AgB3A1BqA3B2A1B2A2BuA1B4A8B1A3B1AnB1AaB1A5B3A1BvA2B1A2BfA2BhA9B1A3B1A15B2A1BgA1B5",
   "A3B8A3BoA6B5AiB3AoB1A9B1A1B2A7B1mA1cB1A2BcA7B1mA2B1A1B1A5B1AoB1A1B1AaB1A2B9A1B2A5B1A1BlA4BwA",
   "1B1rA8B1A10BrA5B37A17BkA1BgA6B4A4B3A1B3A2B7A3B4AdBcA1BhA12B1A1B5A1B2A17B1A99B1A4B2A7B1A1B1A4",
   "B2A15B1A4B2AxB1A4B2A7B1A1B1A4B2AfB1A1lB1A4B2A1vB11AgBgA2eB2A6B3Ah8B2AhB1AqB5A23B3AbB7AiBdAjB",
   "eAiBeAdB1A3BfA1gBzA1B4A1B1vA2hB7A15B1A1B5A1yBaAvB1dAuB2A5BbA18B4AqB1iAnB9A1hB2aA1B2lA1bBhA8B",
   "1iAuBdA2BaA18BqA10B15A3BaA10B2AbB5A17B2A3B15A4B1A6B1A2B3A1B5A5cB1sA7qB2A6B2A12B2A6B2A8B1A1B1",
   "A1B1A1B1AvB2A1hB1A7B1A1B3A3B1A7B3A4B2A6B4AdB5A3B1A7B38A1BdA1BgAdB2tA1B4A1B2AaB1A1B2A6B6A1B1A",
   "1B1A1B1AgB2A4B5A5B4A1BhA15B22fA6dB6A4B3A2BcA12B1A1B5A1B2A1kB7A1BgAnB9A7B1A7B1A7B1A7B1A7B1A7B",
   "1A7B1A7BfaA3BpA9B7A5B2A5B4A2eB4A5B1A2iB1A4B5A17B1A2mBhAwB1cAgBe8A534B1sAh3hB1vA1aB2A7hB3AgBa",
   "A2BkA1bBgAvB2A28B13A9B2A2vB2A1vB2A2B1A1B1A8BlAgB1A3B1A4B1AnBtA1gBeA1eB1qA6B3A1B1A2BbAsBaAnBp",
   "AtB7A1bBsA1BgA5B1AaBaA5B1A15BnA3B1A8BkAnB3A1B3A1eB1A1B3A2B2A5B2A1B1A1BoA3B2AbB7A3BcA6B2A6B2A",
   "6B9A7B1A7B1A17B1AeB6A37BtA8mcBcAnB4A1dB6isAa6B2A2yB12A7BcA5B5A1B1AaB1AdB1A5B1A1B1A2B1A2B1A30",
   "BxAa3BiA1sB2A1iB14AcB38A5B1A3rB10AqB6AqBbA2hB3A6B2A6B2A6B2A3BzAcB1AqB1AjB1A2B1AfB2AeByA3fB1x",
   "A1hB7fAtB3A1dB1bAwBdAuB5A12BaAuB2A10B4A8B1A5B16A4eBiA10B4A10B4A14B8A1gBcAbB1AfB1A7B1A2B1AbB1",
   "AfB1A7B1A2B3A1gBcA8nB9AmBaA8BoA6B1A16B1A9B1xA6B2A1B1A18B1A2B3A1B2AnBaAnB9AvB1tAjB1A2BaAmBaAq",
   "B1yA1kB6A2B1sA1BfA4B1A3B1AtB16AtB3AtBzA8B1AsBrA1iBaAmBaAjBdAiB32A21B1jA1fBdA1fBdA10B12AsB9An",
   "B6yA16B6A2BgA3B1nAtBaA1B8AmB16AiB1aAlBrAnBcA1hB1lA2B2A1BdA19BwApBqA10BtA1B2A1B8AzB3A1BcA1cBe",
   "A4BlA1B1A1BzAiB1ApBjA2B1rA7B1A1B1A4B1AfB1AaB7A1bB12A8B2A2B2AmB1A7B1A2B1A5B3A1BiA1BcA5BuAaB1A",
   "1B2A1B1A12B1A1BpA1B1A1B18A1hBiA4BkA3BuA1cBkA2B1A1B54A1bB15A4B10A1cBkA1B1nA17BdA1B1zArB11A7B5",
   "5A18B38A1sBvA8B2A1B2A8B1A2B1AoBfA1B1A1B2mA8B2A13BgA1B1A1BsA1BaA14B7A1BlA1BbA1aBjA1BiA21B5jAx",
   "BvA9B1A11BhA1B1dAuB34A7B1A2B1A12BlA1BpA6B1A2B1AwBeA1B93AjBfA1B1AdB1AyB3gA1B27ApmB2uA33BhA5gB",
   "218A2pBfAtsBhA6BpA32zB5Ag7B5a1AuB1cyAftB7AvBhA27BhAuBiA1cBgA4BvAlB5AjBc0A19B5vA1sB3kA23B5A1B",
   "1uAdB1sA2B1A1BsA4qgB8AyeB15AaB6w7A4B1A7B1A2B1A83BfA1BtA3B2A1BeA4B8Ab0B1s4A2zB5AdB3A9B7AaB4me",
   "A2dB1A1zB1A2B2A1B2A2B2A4B1AcB1A1B1A7B1A1tB1A4B2A8B1A7B1AsB1A4B1A5B1A1B3A7B1A9gB2ApB1ApB1AvB1",
   "ApB1AvB1ApB1AvB1ApB1AvB1ApB1A8B1f8AvB6A6B79A1qB42A19BaA7BgA1B8xAuBiA18BdgAsB6cAuB2A1BdrA7B1A",
   "4B1A2B1AfB1A5hB1nA1wB7A1BxgA4B1ArB1A2B1A1B2A1B1AaB1A4B1A1B1A1B6A1B4A1B1A1B1A1B1A3B1A2B1A1B2A",
   "1B1A1B1A1B1A1B1A1B1A2B1A1B2A4B1A7B1A4B1A4B1A1B1AaB1AhB5A3B1A5B1AhB3esAwyoBwA37eB6A66B2A4g2Be",
   "A5rlBfAhaB1wiAf2B15uA3t7B5A38gBjgwgA"]

/-- The property IDS Trinary Operator. -/
def idsTrinaryOperator : RunTable := RunTable.ofLines
  ["9gyA2Bnm6kA"]

/-- The property IDS Unary Operator. -/
def idsUnaryOperator : RunTable := RunTable.ofLines
  ["9haA2Bnm68A"]

/-- The property Join Control. -/
def joinControl : RunTable := RunTable.ofLines
  ["6bwA2BnpbmA"]

/-- The property Logical Order Exception. -/
def logicalOrderException : RunTable := RunTable.ofLines
  ["2tcA5B3fA5B25sA3B2A1BsmyA2B2A1B1A2BmxxfA"]

/-- The property Lowercase. -/
def lowercase : RunTable := RunTable.ofLines
  ["2pAqB1bA1BaA1B4A1B10AoB1A8B1A1B1A1B1A1B1A1B1A1B1A1B1A1B1A1B1A1B1A1B1A1B1A1B1A1B1A1B1A1B1A1B1",
   "A1B1A1B1A1B1A1B1A1B1A1B1A1B1A1B1A1B1A1B1A1B1A2B1A1B1A1B1A1B1A1B1A1B1A1B1A1B1A2B1A1B1A1B1A1B1",
   "A1B1A1B1A1B1A1B1A1B1A1B1A1B1A1B1A1B1A1B1A1B1A1B1A1B1A1B1A1B1A1B1A1B1A1B1A1B1A1B2A1B1A1B1A3B2",
   "A1B1A1B2A1B3A2B4A1B2A1B3A3B2A1B2A1B1A1B1A1B2A1B1A2B1A1B2A1B3A1B1A1B2A2B2A3B6A1B2A1B2A1B1A1B1",
   "A1B1A1B1A1B1A1B1A1B1A1B1A2B1A1B1A1B1A1B1A1B1A1B1A1B1A1B1A1B1A2B2A1B1A1B3A1B1A1B1A1B1A1B1A1B1",
   "A1B1A1B1A1B1A1B1A1B1A1B1A1B1A1B1A1B1A1B1A1B1A1B1A1B1A1B1A1B1A1B1A1B1A1B1A1B1A1B1A1B1A1B1A1B1",
   "A1B1A7B2A1B2A2B1A1B4A1B1A1B1A1B1A1B1A1xB1A10B7A2BuA5B2oA1B17A1B1A1B3A1B2A4BiA1BrAzB1A2B3A3B1",
   "A1B1A1B1A1B1A1B1A1B1A1B1A1B1A1B1A1B1A1B1A1B1A5B1A1B2A1B2A2B1fA1cB1A1B1A1B1A1B1A1B1A1B1A1B1A1",
   "B1A1B1A1B1A1B1A1B1A1B1A1B1A1B1A1B1A1B1A1B9A1B1A1B1A1B1A1B1A1B1A1B1A1B1A1B1A1B1A1B1A1B1A1B1A1",
   "B1A1B1A1B1A1B1A1B1A1B1A1B1A1B1A1B1A1B1A1B1A1B1A1B1A1B1A1B2A1B1A1B1A1B1A1B1A1B1A1B1A2B1A1B1A1",
   "B1A1B1A1B1A1B1A1B1A1B1A1B1A1B1A1B1A1B1A1B1A1B1A1B1A1B1A1B1A1B1A1B1A1B1A1B1A1B1A1B1A1B1A1B1A1",
   "B1A1B1A1B1A1B1A1B1A1B1A1B1A1B1A1B1A1B1A1B1A1B1A1B1A1B1A1B1A1B1A1B1A1B1A1B1A1B1A1B1A1B1A1B1A1",
   "B1cA15B287A17B1A4Bl4A6B1oiA9B1A1B39A5cB1tA1B1A1B1A1B1A1B1A1B1A1B1A1B1A1B1A1B1A1B1A1B1A1B1A1B",
   "1A1B1A1B1A1B1A1B1A1B1A1B1A1B1A1B1A1B1A1B1A1B1A1B1A1B1A1B1A1B1A1B1A1B1A1B1A1B1A1B1A1B1A1B1A1B",
   "1A1B1A1B1A1B1A1B1A1B1A1B1A1B1A1B1A1B1A1B1A1B1A1B1A1B1A1B1A1B1A1B1A1B1A1B1A1B1A1B1A1B1A1B1A1B",
   "1A1B1A1B1A1B1A1B1A1B1A1B1A1B1A1B1A1B1A1B1A1B1A1B1A1B1A1B1A1B1A9B1A1B1A1B1A1B1A1B1A1B1A1B1A1B",
   "1A1B1A1B1A1B1A1B1A1B1A1B1A1B1A1B1A1B1A1B1A1B1A1B1A1B1A1B1A1B1A1B1A1B1A1B1A1B1A1B1A1B1A1B1A1B",
   "1A1B1A1B1A1B1A1B1A1B1A1B1A1B1A1B1A1B1A1B1A1B1A1B1A1B1A1B1A1B1A1B1A1B1A1B1A9B8A6BaA8B8A8B8A6B",
   "aA8B8A8B8AeB2A8B8A8B8A8B8A5B1A2B6A1B3A3B1A2B8A4B2A2B8A8BaA3B1A2B3dA1BdA1BgAdB31A1B3A2B3A1BrA",
   "1B4A1B4A1B2A2B8A4B4A1BxAgB4A1BnfAqB1fqA1cB1A1B3A2B1A1B1A1B1A1B4A1B1A2B1A8B3A1B1A1B1A1B1A1B1A",
   "1B1A1B1A1B1A1B1A1B1A1B1A1B1A1B1A1B1A1B1A1B1A1B1A1B1A1B1A1B1A1B1A1B1A1B1A1B1A1B1A1B1A1B1A1B1A",
   "1B1A1B1A1B1A1B1A1B1A1B1A1B1A1B1A1B1A1B1A1B1A1B1A1B1A1B1A1B1A1B1A1B1A1B1A1B1A1B1A1B1A1B1A2B7A",
   "1B1A1B4A1BcA12B1A1B5A1BnwzA1B1A1B1A1B1A1B1A1B1A1B1A1B1A1B1A1B1A1B1A1B1A1B1A1B1A1B1A1B1A1B1A1",
   "B1A1B1A1B1A1B1A1B1A1B1A1BjA1B1A1B1A1B1A1B1A1B1A1B1A1B1A1B1A1B1A1B1A1B1A1B1A1B1A3B3pA1B1A1B1A",
   "1B1A1B1A1B1A1B1A3B1A1B1A1B1A1B1A1B1A1B1A1B1A1B1A1B1A1B1A1B1A1B1A1B1A1B1A1B1A1B1A1B1A1B1A1B1A",
   "1B1A1B1A1B1A1B1A1B1A1B1A1B1A1B1A1B1A1B1A1B1A1B1AaB1A1B1A1B2A1B1A1B1A1B1A1B1A1B4A1B1A1B2A1B1A",
   "3B1A1B1A1B1A1B1A1B1A1B1A1B1A1B1A1B1A1B1A1B5A1B5A1B1A1B1A1B1A1B1A1B1A1B1A1B1A1B4A1B1A1B2A1B3A",
   "1B1A1B1A1B1A1B1A1B1A1BmA3B1A1B1A3BmtA17B1AeB6A28BfnkA7BcA5BtlAqBy5A14B3sA10B4bAbB1AfB1A7B1A2",
   "BcjA1B2A3B1A16B1A9BzpA1fB3hAmB27uAwBgw0AwBk2iAqBqA7B1AiBqAqBqA4B1A1B1A7B1AbBqAqBqAqBqAqBqAqB",
   "qAqBqAqBqAqBqAqBqAsBsApB1A6BqApB1A6BqApB1A6BqApB1A6BqApB1A6B1A1B1f8AaB1AkB6A6B79A1qB1pwAyBl7",
   "0cA"]

/-- The property Math. -/
def math : RunTable := RunTable.ofLines
  ["17A1BgA3BvA1BtA1B1A1B19A1B4A1B11A1BvA1Bk8A3B2A1BqA2B2A3BenA3B559A1BrA3BbA1B3A1BdA1BeA4BlA5Bb",
   "A5B1tAdB4A1B3A2B4A5BiA1B4A1B2AaB1A1B2A6B6A1B3A2B2A2B1A3B1A6B3AeB1A1B1wAoB1A6B1A2B4A2B4AwB1A1",
   "B6A2BeA7gB8A4BkA2B2iA1BuArB1A1BoA1BbA7BcdA2BcAaB4A6B4A2B2A2B3A5BeA1B1A1B2A6BbA8B5A2B1lA1B1A1",
   "BtA4B9A3B9cA1sB74Ae8B1cAlB2A6B1524A1BmvA6B1A1B4iA1BgA3BtA1B1A1BtA1B1A1B3nA1B6A4B2oxA2B1374A2",
   "dB1A1zB1A2B2A1B2A2B2A4B1AcB1A1B1A7B1A1tB1A4B2A8B1A7B1AsB1A4B1A5B1A1B3A7B1A9gB2A84B2A1eB4cgA4",
   "B1ArB1A2B1A1B2A1B1AaB1A4B1A1B1A1B6A1B4A1B1A1B1A1B1A3B1A2B1A1B2A1B1A1B1A1B1A1B1A1B1A2B1A1B2A4",
   "B1A7B1A4B1A4B1A1B1AaB1AhB5A3B1A5B1AhB1gA2Bl5vyA"]

/-- The property Modifier Combining Mark. -/
def modifierCombiningMark : RunTable := RunTable.ofLines
  ["190A2B2A1B3nA1B6A1B3A2BddA2B1A3B3A1BvA1BntvwA"]

/-- The property Noncharacter Code Point. -/
def noncharacterCodePoint : RunTable := RunTable.ofLines
  ["1e4wAwBemA2B1ekeA2B1ekeA2B1ekeA2B1ekeA2B1ekeA2B1ekeA2B1ekeA2B1ekeA2B1ekeA2B1ekeA2B1ekeA2B1ek",
   "eA2B1ekeA2B1ekeA2B1ekeA2B1ekeA2B"]

/-- The property Other Alphabetic. -/
def otherAlphabetic : RunTable := RunTable.ofLines
  ["n9A1BtAdBg0AeB1A1B1A2B1A2B1A1B20AbB1cAdB1A7BgA1B2tA7B4A4B2A2B4A1BzA1BuAgB2uAbB2tA2B3A9B1A3B1",
   "A4B2yA1B1oAcB3A7B6AkB1iA2B2AfB1A2B5A3BaA2BtA3B1mA7B2A2B2A2BaA1BaA2BtA3B1mA5B4A2B2A2B4A1BuA2B",
   "3A1BbA3B1mA8B1A3B1A2BlA2BmA3B4A3B1mA7B2A2B2A2B9A2BaA2BuA1B1nA5B3A3B1A3BaA1B14A5B1lA7B1A3B1A3",
   "B8A2BbA2BtA3B1mA7B1A3B1A3B8A2BbA2BfA1BcA4B1mA7B1A3B1A3BaA1BaA2BtA3B23A6B1A1B1A8BiA2B1pA1B2A7",
   "BiA1B2rA1B2A6B1A2BgA1B4jAjB9AbB1A10B32AcB1A1B2A4BnA4B4A3B1A3B2A7B3A4BdAcB1A1BaA4B19wA2BuA2Bu",
   "A2BuA2B1uAjB58A2ByA1B3aAcB4A9B66A5B1lAaB2AkB22A2BbA3B1dA5B1cAfB1oA3BuA9B2A2B1lAbB1eAjBbgAyB1",
   "c1A1gB1rqAwBnskA8ByA2B9uA1B8A1BnA5B2gA2B1eAgB1A1B1lA1B12A5BsAcB19A4B1cAcB11A1B1vAeBcA1B8A2B1",
   "9A3B1eA1B1A3B2A2B5A1B18A5B5A1B6lA8Bfn7A1B1nbA5B1aeA3B1A2B5A4BlwA4B1tA1B8xA2B27A1B77A3B1hAeB1",
   "9A2BbA3B19A9B9A1B1pA3B10AcBiA2B1lA3B1cAdBeA2B2kA9B2A1B6A1B2A1B4dAaBnA4B1mA7B2A2B2A2BaA1BaA2B",
   "2cA9B1A1B2A1B1A4B1A2B2vAdB1A3B2yAiB6lA7B2A7BtA2B2aAfB1A1B2yAbB2vAeB75AdB6vA6B1A2B2A2B3A1B1A1",
   "B3yA7B2A6B4A1BsAaB16A5B1A4BiAbB1aAeBbbA8B1A7B2bAmB1AeB3eA6B3A1B1A2B1A3B1A1B3A1B1uA5B1A2B1A4B",
   "9oA4B9A2B1A1B1cA7B3A3Bd0dAhB2sgA1B1A1jB7A4B2lA2Bf58A1B6zlA7B1AhB2A7B1A2B1A5B2sA1B1pzA1B1k8Aq",
   "B6AqB6AqBl5diA"]

/-- The property Other Default Ignorable Code Point. -/
def otherDefaultIgnorableCodePoint : RunTable := RunTable.ofLines
  ["njA1B2rzA2B18zA2B1prA1B3cuA1B14qjA1B27A9Bi9dzA1B1AuB2oA3kB6oA2s0B44jkA"]

/-- The property Other Grapheme Extend. -/
def otherGraphemeExtend : RunTable := RunTable.ofLines
  ["1xaA1BoA1B9yA1BoA1B2uA1BoA1B6gA1B1A1B4A2B1A2B9A2B2vA1BoA1B3bA1BfA1B1thA1BuA1BsgA1B5A1B1A1B5A",
   "2B2tA1B1zA2Bt4A1B36pA2BnxfA1B30A1BgylA2B3kwA1B38A1B7cA1BeA1B9A1B2oA1B9A1B2A1B1A3B5A1B68A1BcA",
   "1B6pA1B7aA1BhlA1BcA1B16rA1BfxqA2Bj8zA2B6A6Bh419A2oB47lsA"]

/-- The property Other ID Continue. -/
def otherIdContinue : RunTable := RunTable.ofLines
  ["53A1BjzA1B34xA9B19kA1B181A2B3cdA1B14rtA1Bmh7eA"]

/-- The property Other ID Start. -/
def otherIdStart : RunTable := RunTable.ofLines
  ["4udA2B1oxA1BlA1B31oA2Bnm1vA"]

/-- The property Other Lowercase. -/
def otherLowercase : RunTable := RunTable.ofLines
  ["4qA1BfA1BdxA9B7A2BuA5B2oA1B1gA1B2o1A1B2enA1rBdA1ByA11Bj5A1BdA1BgAdB5vAgBnkAqB1huA2Bo4eA2B5uA",
   "1B3lA3B3A2Bo2A4B9A1Bi6uA1B2A3B1A16B1A9B16r9A1qBl8r6A"]

/-- The property Other Math. -/
def otherMath : RunTable := RunTable.ofLines
  ["2mA1BohA3B2A1BqA2B2A2B5k0A1BrA3BbA1BwA4BoA2BeA2B1tAdB4A1B3A2B4A5BiA1B4A1B2AaB1A1B3A5B6A1B3A2",
   "B2A2B1A3B1A6B3A4B5A5B23A5B2A4B1A2B1A2B1A1B1A5B2A2B4A2B4AiB2A2B1A1B1A7B1A1B6A2B82A4B4oA2B1A1B",
   "oA1BhA1BcdA2BcA9B5A5B5A2B2A2B3A5BeA1B1A1B2A6BoA2B1lA1B1A1BtA4B9A2B9iA2BvAaBb7AmB1rA4BwA2B15y",
   "bA1B1A1B4A1B5vA1B1A1B160xA2dB1A1zB1A2B2A1B2A2B2A4B1AcB1A1B1A7B1A1tB1A4B2A8B1A7B1AsB1A4B1A5B1",
   "A1B3A7B1A9gB2ApB1ApB1AvB1ApB1AvB1ApB1AvB1ApB1AvB1ApB1A8B2A1eB4cgA4B1ArB1A2B1A1B2A1B1AaB1A4B1",
   "A1B1A1B6A1B4A1B1A1B1A1B1A3B1A2B1A1B2A1B1A1B1A1B1A1B1A1B1A2B1A1B2A4B1A7B1A4B1A4B1A1B1AaB1AhB5",
   "A3B1A5B1AhBl5xgA"]

/-- The property Other Uppercase. -/
def otherUppercase : RunTable := RunTable.ofLines
  ["6lcAgBnaAqB2ixsAqB6AqB6AqBl5diA"]

/-- The property Pattern Syntax. -/
def patternSyntax : RunTable := RunTable.ofLines
  ["xAfBaA7BqA4B1A1BqA4ByA7B1A1B1A2B1A1B1A2B4A1B4A1B3A1BnA1BvA1B654AoB8AfB2AjB1AaB8hAk0B4gAhiBuA",
   "vgBe8A3kBapA3B4ApBfA1B14i5A2B79A2BmhfdA"]

/-- The property Pattern White Space. -/
def patternWhiteSpace : RunTable := RunTable.ofLines
  ["9A5BiA1B2sA1B688A2BoA2BnpauA"]

/-- The property Prepended Concatenation Mark. -/
def prependedConcatenationMark : RunTable := RunTable.ofLines
  ["16oA6B5zA1B1dA1BaoA2B28A1B1g4aA1BfA1BmdrmA"]

/-- The property Quotation Mark. -/
def quotationMark : RunTable := RunTable.ofLines
  ["yA1B4A1B3nA1BfA1B670A8BpA2B2rrA1BcpA4BdA3B14ptA4B59A1B4A1B2iA2Bmh7gA"]

/-- The property Radical. -/
def radical : RunTable := RunTable.ofLines
  ["96oAqB1A2hBcA5yBnm7eA"]

/-- The property Regional Indicator. -/
def regionalIndicator : RunTable := RunTable.ofLines
  ["2qcmAqBl5a8A"]

/-- The property Sentence Terminal. -/
def sentenceTerminal : RunTable := RunTable.ofLines
  ["xA1BcA1BgA1B11lA1B43A3B50A1B17A3B6uA1B1pA1B1A1B3A2B85A2B1d0A2BlyA1B4A2BlhA1B5iA2B4dA2B19A1B5",
   "A1B8qA2B9uA4B4iA2BaA2B2A2BtA3B57A2B1tA2BpwA1BnA2B9A3B2i7A3B8iA1BdA1BmA2BbxA1Bn3wA1B7iA2B6bA1",
   "B3A1BamA2B2eA2B2nA1B48A2B43A3B40A2B6xA1Bg86A1B2A2B1nA1B3A2B4pA1BcA1BgA1B1tA1B25wA2BzhA5B18A4",
   "B59A2B39A4B3jA3B3lA2B6A1BgA2B2gA2B1A2B30A1B8aA2B39A2BadA2B5AfB2xA2B6xA3BedA1B1A1B6zA2B2fA2Bb",
   "oA2Bj8A2B22A2BeuhA2B3pA1B1tA2BbA1BfdA2B88A1BfeuA1B5woA1Bl9x3A"]

/-- The property Soft Dotted. -/
def softDotted : RunTable := RunTable.ofLines
  ["2xA2B5gA1B7tA1BuA1B1gA1BkA1B8wA1B2qA1B1A1B4y1A1B1fA1BdA1B3A1B3oA1B4dA1BbpA1B5yA2B27mA1B2bolA",
   "2B1eA2B1eA2B1eA2B1eA2B1eA2B1eA2B1eA2B1eA2B1eA2B1eA2B1eA2B1eA2B1omA1B8hA2BqA1Bl8rbA"]

/-- The property Terminal Punctuation. -/
def terminalPunctuation : RunTable := RunTable.ofLines
  ["xA1BaA1B1A1BbA2B3A1Bn2A1B8A1Be9A1B1lA1B20A1BeA1B1A3B50A1B17AbB1A1B6jA2B1iA6B1A8BvA1B79A2Bz8A",
   "2B4sA1B4A6B8nA2BlxA8BlhA1B3gA3B1zA2B4dA3B3A1B13A4B2A2B8qA2B9uA4B4iA2BaA2B1A3BtA3B57A5B1qA2Bp",
   "wA1BnA2B9A3B2i7A3B8iA1BdA1B4A1BaA1B1A2B3A2BbwA2Bn3vA2B7hA3B6bA5BamA2B2eA2B2nA1B47A3B43A3B3jA",
   "1BgA2B6xA1Bg86A1B2A2B1lA3B1A4B4pA1BaA1B1A1BbA2B3A1B1tA1B2A1Bu2A1B1cA1Bw6A1B5jA1B8mA2B48A6B1w",
   "A6B2hA4BqgA5B18A4B59A7B34A4B3jA3B3lA2B6A1BgA2B2gA5B30A1B8aA2B39A3BcA2B9yA4B3AfB2xA2B6xA3BedA",
   "1B1A1B6zA2B2fA2B4A2BbiA3B19A1BhxA2B22A2B10rA5BdtlA2B3pA1B1tA3BaA1BfdA2B87A2BfeuA1B5wnA4Bl9x1",
   "A"]

/-- The property Unified Ideograph. -/
def unifiedIdeograph : RunTable := RunTable.ofLines
  ["a9sA534B1sAg74BhseA2B1A1B1A2BaA1B1A1B1A2B2A3B1fpyAwyoBwA37eB6A66B2A4g2BeA5rlBfAhaB3heA3t7B5A",
   "38gBjgwgA"]

/-- The property Uppercase. -/
def uppercase : RunTable := RunTable.ofLines
  ["1tAqB2tAnB1A7BxA1B1A1B1A1B1A1B1A1B1A1B1A1B1A1B1A1B1A1B1A1B1A1B1A1B1A1B1A1B1A1B1A1B1A1B1A1B1A",
   "1B1A1B1A1B1A1B1A1B1A1B1A1B1A1B1A1B2A1B1A1B1A1B1A1B1A1B1A1B1A1B1A1B2A1B1A1B1A1B1A1B1A1B1A1B1A",
   "1B1A1B1A1B1A1B1A1B1A1B1A1B1A1B1A1B1A1B1A1B1A1B1A1B1A1B1A1B1A1B1A1B1A2B1A1B1A1B3A2B1A1B1A2B1A",
   "3B2A4B1A2B1A3B3A2B1A2B1A1B1A1B1A2B1A1B2A1B1A2B1A3B1A1B1A2B3A1B7A1B2A1B2A1B2A1B1A1B1A1B1A1B1A",
   "1B1A1B1A1B1A1B2A1B1A1B1A1B1A1B1A1B1A1B1A1B1A1B1A1B2A1B2A1B1A3B1A1B1A1B1A1B1A1B1A1B1A1B1A1B1A",
   "1B1A1B1A1B1A1B1A1B1A1B1A1B1A1B1A1B1A1B1A1B1A1B1A1B1A1B1A1B1A1B1A1B1A1B1A1B1A1B1A1B1A1B7A2B1A",
   "2B2A1B1A4B1A1B1A1B1A1B1A1B81A1B1A1B3A1B8A1B6A1B1A3B1A1B1A2B1AhB1A9BzA1B2A3B3A1B1A1B1A1B1A1B1",
   "A1B1A1B1A1B1A1B1A1B1A1B1A1B1A1B5A1B2A1B1A2B2A1fB1cA1B1A1B1A1B1A1B1A1B1A1B1A1B1A1B1A1B1A1B1A1",
   "B1A1B1A1B1A1B1A1B1A1B1A1B9A1B1A1B1A1B1A1B1A1B1A1B1A1B1A1B1A1B1A1B1A1B1A1B1A1B1A1B1A1B1A1B1A1",
   "B1A1B1A1B1A1B1A1B1A1B1A1B1A1B1A1B1A1B1A1B1A2B1A1B1A1B1A1B1A1B1A1B1A1B2A1B1A1B1A1B1A1B1A1B1A1",
   "B1A1B1A1B1A1B1A1B1A1B1A1B1A1B1A1B1A1B1A1B1A1B1A1B1A1B1A1B1A1B1A1B1A1B1A1B1A1B1A1B1A1B1A1B1A1",
   "B1A1B1A1B1A1B1A1B1A1B1A1B1A1B1A1B1A1B1A1B1A1B1A1B1A1B1A1B1A1B1A1B1A1B1A1B1A1B2A12B289A12B1A1",
   "B5A1Bk2A2eB1ozA1B6A17B2A3B8wA1B1A1B1A1B1A1B1A1B1A1B1A1B1A1B1A1B1A1B1A1B1A1B1A1B1A1B1A1B1A1B1",
   "A1B1A1B1A1B1A1B1A1B1A1B1A1B1A1B1A1B1A1B1A1B1A1B1A1B1A1B1A1B1A1B1A1B1A1B1A1B1A1B1A1B1A1B1A1B1",
   "A1B1A1B1A1B1A1B1A1B1A1B1A1B1A1B1A1B1A1B1A1B1A1B1A1B1A1B1A1B1A1B1A1B1A1B1A1B1A1B1A1B1A1B1A1B1",
   "A1B1A1B1A1B1A1B1A1B1A1B1A1B1A1B1A1B1A1B1A1B1A1B1A1B9A1B1A1B1A1B1A1B1A1B1A1B1A1B1A1B1A1B1A1B1",
   "A1B1A1B1A1B1A1B1A1B1A1B1A1B1A1B1A1B1A1B1A1B1A1B1A1B1A1B1A1B1A1B1A1B1A1B1A1B1A1B1A1B1A1B1A1B1",
   "A1B1A1B1A1B1A1B1A1B1A1B1A1B1A1B1A1B1A1B1A1B1A1B1A1B1A1B1A1B1A1B9A8B8A6BaA8B8A8B8A6BbA1B1A1B1",
   "A1B1A1B8A8B20A4BcA4BcA4BcA5BbA4B7aA1B4A1B3A3B2A3B2A1B3A5B6A1B1A1B1A1B1A4B2A4BaA2B5A1BqAgBjA1",
   "BmqAqB1f4A1cB1cA1B1A3B2A1B1A1B1A1B1A4B1A1B2A1B8A3B1A1B1A1B1A1B1A1B1A1B1A1B1A1B1A1B1A1B1A1B1A",
   "1B1A1B1A1B1A1B1A1B1A1B1A1B1A1B1A1B1A1B1A1B1A1B1A1B1A1B1A1B1A1B1A1B1A1B1A1B1A1B1A1B1A1B1A1B1A",
   "1B1A1B1A1B1A1B1A1B1A1B1A1B1A1B1A1B1A1B1A1B1A1B1A1B1A1B1A1B1A1B8A1B1A1B4A1BnylA1B1A1B1A1B1A1B",
   "1A1B1A1B1A1B1A1B1A1B1A1B1A1B1A1B1A1B1A1B1A1B1A1B1A1B1A1B1A1B1A1B1A1B1A1B1A1BjA1B1A1B1A1B1A1B",
   "1A1B1A1B1A1B1A1B1A1B1A1B1A1B1A1B1A1B1A1B3rA1B1A1B1A1B1A1B1A1B1A1B1A1B3A1B1A1B1A1B1A1B1A1B1A1",
   "B1A1B1A1B1A1B1A1B1A1B1A1B1A1B1A1B1A1B1A1B1A1B1A1B1A1B1A1B1A1B1A1B1A1B1A1B1A1B1A1B1A1B1A1B1A1",
   "B1A1B1A1BaA1B1A1B1A2B1A1B1A1B1A1B1A1B4A1B1A1B2A1B1A1B3A1B1A1B1A1B1A1B1A1B1A1B1A1B1A1B1A1B1A1",
   "B1A5B1A5B1A1B1A1B1A1B1A1B1A1B1A1B1A1B1A4B1A1B1A2B3A1B5A1B1A1B1A1B1A1BoA1Bh7vAqBxxA14B3sA10B4",
   "cAbB1AfB1A7B1A2B1d6A1fB4dAmB27uAwBgw0AwBk2oAqBqAqBqAqBqA1B1A2B2A1B2A2B2A4B1A8BqAqBqA2B1A4B2A",
   "8B1A7BrA2B1A4B1A5B1A1B3A7BrAqBqAqBqAqBqAqBqAqBqAqBuApBxApBxApBxApBxApBxA1B3edAyB1laAqB6AqB6A",
   "qBl5diA"]

/-- The property Variation Selector. -/
def variationSelector : RunTable := RunTable.ofLines
  ["4qzA3B1A1B19f4AgBi9yoA6oB47bkA"]

/-- The property White Space. -/
def whiteSpace : RunTable := RunTable.ofLines
  ["9A5BiA1B2sA1BqA1B4bjA1B1vjAbBtA2B5A1B1bA1B334A1Bnm67A"]

/-- The property XID Continue. -/
def xidContinue : RunTable := RunTable.ofLines
  ["1cAaB7AqB4A1B1AqB1bA1BaA1B1A1B2A1B5AnB1AvB1AcqB4AcBeA5B7A1B1A1BhA39B1A2B3A3B1A1B6A5B1A1B1AkB",
   "1A2bB1A3vB1A5B2A4mB1A12B2A1B6A15B8A19B1A1B1A2B1A2B1A1B8ArB4A4BtAbB5A22B4A2uB1A8B2AaB1AjB2A1B",
   "gA1nB2A2tBeA1iB4A1B2A1B2A1aBiAsB4AbB5AoB1A6B8A23B1A3lB2AaB1AjB1A8B2A2B2AmB1A7B1A1B3A4B2A9B2A",
   "2B2A4B8A1B4A2B1A5B2AcBaA1B1A1B2A3B1A6B4A2B2AmB1A7B1A2B1A2B1A2B2A1B1A5B4A2B2A3B3A1B7A4B1A1B7A",
   "gBbA3B1A9B1A3B1AmB1A7B1A2B1A5B2AaB1A3B1A3B2A1BfA4B2AaB9A7B1A3B1A8B2A2B2AmB1A7B1A2B1A5B2A9B2A",
   "2B2A3B7A3B4A2B1A5B2AaB1A1BgA2B1A6B3A3B1A4B3A2B1A1B1A2B3A2B3A3B3AcB4A5B3A3B1A4B2A1B6A1BeAaBgA",
   "dB1A3B1AnB1AgB2A9B1A3B1A4B7A2B1A3B2A1B2A4B2AaBgA4B1A8B1A3B1AnB1AaB1A5B2A9B1A3B1A4B7A2B6A2B1A",
   "4B2AaB1A3BcAdB1A3B1A1fB1A3B1A5B5A4B7A5B2AaBaA6B1A3B1AiB3AoB1A9B1A1B2A7B3A1B4A6B1A1B1A8B6AaB2",
   "A2BdA1mB5AfB1AaB13A2B1A1B1A5B1AoB1A1B1AnB2A5B1A1B1A7B1AaB2A4BwA1BnA2B6AaBbA1B1A1B1A1B4AaB1A1",
   "0B4AkB1AiB1A10B9A1B1lA22B6A26B2A12B1A1B5A1B2A17B1A99B1A4B2A7B1A1B1A4B2A15B1A4B2AxB1A4B2A7B1A",
   "1B1A4B2AfB1A1lB1A4B2A1vB2A3B9A9BeAgBgA2eB2A6B3Ah8B2AhB1AqB5A23B3AbB7AmB9AmBbAkBcAdB1A3B1A2Bc",
   "A2cB3A1B4A2B2AaBxA3B1AbB6A2hB7A17B5A1yBaAvB1AcB4AcBaA14B2A5BbA18B4AqB6AbB11AsB4A1rB1AtB2AbB6",
   "AaBdA1B8AeB1AgB1dA25B3AaBhA9BcA38BcA1kB8AaB3A1dB2AbB5A17B2A3BgA3B1A13B5AeuB2A6B2A12B2A6B2A8B",
   "1A1B1A1B1A1B1AvB2A1hB1A7B1A1B3A3B1A7B3A4B2A6B4AdB5A3B1A7BfA2B1dA2BjA1BsA1BdA1BgAdB1fAdB4A1B3",
   "AcBhA1B4A1B2AaB1A1B2A6B6A1B1A1B1A1B1AgB2A4B5A5B4A1BhA15B22fA6dB6A9BcA12B1A1B5A1B2A1kB7A1BfAo",
   "B9A7B1A7B1A7B1A7B1A7B1A7B1A7B1A7B1AwBedA3BpAfB1A5B2A5B4A2eB2A2B2A3B1A2nB5A17B1A2mBhAwB1cAgBe",
   "8A534B1sAh3hB1vA1aB2A7hB3AsBkA1cB4AaB1A37B11A9B2A2vB2A1vB2A2B1A1B1A8BlA1iB4A1BjA1gBcA1yBaAaB",
   "6AoB3A1B1A1dB2A10BcAtB3A1tBeAbB6AvB1A1jB9AeB2AaB6AnB3A21BoA3B2AgB2A5BaA6B2A6B2A6B9A7B1A7B1A1",
   "7B1AeB6A3fB1A2B2AaB6A8mcBcAnB4A1dB6isAa6B2A2yB12A7BcA5B5AcB1AdB1A5B1A1B1A2B1A2B1A30BxA3vB6A6",
   "2BiA1sB2A1iB14AaB6AgBgAgB3A2BoA3BxA1B1A1B3A1B1A1B1A1B1A1B1A3iBjAaB7AqB4A1B1AqBaA2iB3A6B2A6B2",
   "A6B2A3BzAcB1AqB1AjB1A2B1AfB2AeByA3fB1xA1hB3sA1B3mAtB3A1dBfA1BvAwBdAuB5A17B5AuB2A10B4A8B1A5B1",
   "6A4eB2AaB6A10B4A10B4A14B8A1gBcAbB1AfB1A7B1A2B1AbB1AfB1A7B1A2B3A1gBcA8nB9AmBaA8BoA6B1A16B1A9B",
   "1xA6B2A1B1A18B1A2B3A1B2AnBaAnB9AvB1tAjB1A2BaAmBaAqB1yA1kB6A2B1sA4B1A2B5A8B1A3B1AtB2A3B4A1BwA",
   "tB3AtBzA8B1AuBpA1iBaAmBaAjBdAiB32A21B1jA1fBdA1fBdA14B8AaB6A12B3A5B1AnB6yA16B1A2B3A2BgA3B1jAx",
   "BaA1B8AxBvAmB16AlBrAnB9A1zBvAgB9A1oB7A1BdApB7AaB6A1hB1AaB4A4B8A10B2A1B9A1xB4A4B1AdB1A1BzAiB1",
   "A11B6A4B1qA7B1A1B1A4B1AfB1AaB7A1nB5AaB6A4B1A8B2A2B2AmB1A7B1A2B1A5B1AaB2A2B2A3B2A1B6A1B5A7B2A",
   "7B3A5BbAaB1A1B2A1B1A12B1AaB1A1B2A1B1A4B1A8BdA2BtA23B5AaB4A4BuA1yB1A1B8AaB4mA1iB2A9BnA6ByA1tB",
   "3A1BbAaB12A1lB7AaB6AkBsArB2AfB4AaB6A7B55A1nB2tA22BlA8B2A1B2A8B1A2B1AuB1A2B2A9BcAaB1yA8B2A1aB",
   "2A8B1A2BrA1rB8A1B8A22B3A1BiA21B5jAxBfAaB6A9B1A19B1A9BfAaBoAuB2AmB1AeB21A7B1A2B1A18B3A1B1A2B1",
   "A9B8AaB6A6B1A2B1A11B1A2B1A6B7AaB8mAnB9AhB1A15B3A5BdAbB2dA1B27ApmB2uA33BhA5gB218A2pBfAtsBgAmB",
   "aA32zB5Ag7B5a1A1mB1c6AftB7AvB1AaB6A27B1AaB6AuB2A5BbA1jB9A4BcAaB9AlB5AjBc0A19B3AaB5iA1sB3kA23",
   "B4A1lB7AhB1sA2B1A2BbA2BeA4qgB8AyeB15AaB6w7A4B1A7B1A2B1A83BfA1BtA3B2A1BeA4B8Ab0B1s4A2zB5AdB3A",
   "9B7AaB3A2B381AaBeeA1aB2AnBf2A5B3A6B8A8B2A7BuA4B44A3BcbA2dB1A1zB1A2B2A1B2A2B2A4B1AcB1A1B1A7B1",
   "A1tB1A4B2A8B1A7B1AsB1A4B1A5B1A1B3A7B1A9gB2ApB1ApB1AvB1ApB1AvB1ApB1AvB1ApB1AvB1ApB1A8B2A1eBe8",
   "A1jB4A1eB8A1BeA1BmA5B1AfBuoAvB6A6B5xA7B1AhB2A7B1A2B1A5B5A1qBxA1B34A19B3AeB2AaB4A1B8xAvBhA1mB",
   "d2A16B5yA17BdhA7B1A4B1A2B1AfB1A5hBbA7B15A24B4AaBx2A4B1ArB1A2B1A1B2A1B1AaB1A4B1A1B1A1B6A1B4A1",
   "B1A1B1A1B1A3B1A2B1A1B2A1B1A1B1A1B1A1B1A1B1A2B1A1B2A4B1A7B1A4B1A4B1A1B1AaB1AhB5A3B1A5B1AhB2lw",
   "AaBsmAwyoBwA37eB6A66B2A4g2BeA5rlBfAhaB1wiAf2B15uA3t7B5A38gBf9e8A6oB47bkA"]

/-- The property XID Start. -/
def xidStart : RunTable := RunTable.ofLines
  ["1tAqB6AqB1bA1BaA1B4A1B5AnB1AvB1AcqB4AcBeA5B7A1B1A1B3lA5B1A2B3A3B1A1B6A1B1A3B1A1B1AkB1A2bB1A3",
   "vB8A4mB1A12B2A1B6A15B1zArB4A4B19A17BzA2B1A2rB1A1BfA2B7A2BaA3B2A1BgA1B1AuBtA2hBbA1BoAxB9A2B4A",
   "1B5AmB4A1B9A1B3A1BnApB7AbB5AoB1A6BhA16B1mA1iB3A1BiA1B7AaBfAgB4A8B2A2B2AmB1A7B1A1B3A4B3A1BgA1",
   "BdA2B1A3BeA2BaA1B8A6B4A2B2AmB1A7B1A2B1A2B1A2BvA4B1A1BjA3BgA9B1A3B1AmB1A7B1A2B1A5B3A1BiA1BfA2",
   "BnA1BbA8B2A2B2AmB1A7B1A2B1A5B3A1BuA2B1A3BfA1BhA1B1A6B3A3B1A4B3A2B1A1B1A2B3A2B3A3B3AcBmA1B1gA",
   "8B1A3B1AnB1AgB3A1BqA3B2A1B2A2BuA1B4A8B1A3B1AnB1AaB1A5B3A1BvA2B1A2BfA2BhA9B1A3B1A15B2A1BgA1B5",
   "A3B8A3BoA6B5AiB3AoB1A9B1A1B2A7B1mA1cB1A1BdA7B1mA2B1A1B1A5B1AoB1A1B1AaB1A1BaA1B2A5B1A1BlA4BwA",
   "1B1rA8B1A10BrA5B37A17BkA1BgA6B4A4B3A1B3A2B7A3B4AdBcA1BhA12B1A1B5A1B2A17B1A99B1A4B2A7B1A1B1A4",
   "B2A15B1A4B2AxB1A4B2A7B1A1B1A4B2AfB1A1lB1A4B2A1vB11AgBgA2eB2A6B3Ah8B2AhB1AqB5A23B3AbB7AiBdAjB",
   "eAiBeAdB1A3BfA1gBzA1B4A1B1vA2hB7A15B1A1B5A1yBaAvB1dAuB2A5BbA18B4AqB1iAnB9A1hB2aA1B2lA1bBhA8B",
   "1iAuBdA2BaA18BqA10B15A3BaA10B2AbB5A17B2A3B15A4B1A6B1A2B3A1B5A5cB1sA7qB2A6B2A12B2A6B2A8B1A1B1",
   "A1B1A1B1AvB2A1hB1A7B1A1B3A3B1A7B3A4B2A6B4AdB5A3B1A7B38A1BdA1BgAdB2tA1B4A1B2AaB1A1B2A6B6A1B1A",
   "1B1A1B1AgB2A4B5A5B4A1BhA15B22fA6dB6A4B3A2BcA12B1A1B5A1B2A1kB7A1BgAnB9A7B1A7B1A7B1A7B1A7B1A7B",
   "1A7B1A7BfaA3BpA9B7A5B2A5B4A2eB6A3B1A2iB1A4B5A17B1A2mBhAwB1cAgBe8A534B1sAh3hB1vA1aB2A7hB3AgBa",
   "A2BkA1bBgAvB2A28B13A9B2A2vB2A1vB2A2B1A1B1A8BlAgB1A3B1A4B1AnBtA1gBeA1eB1qA6B3A1B1A2BbAsBaAnBp",
   "AtB7A1bBsA1BgA5B1AaBaA5B1A15BnA3B1A8BkAnB3A1B3A1eB1A1B3A2B2A5B2A1B1A1BoA3B2AbB7A3BcA6B2A6B2A",
   "6B9A7B1A7B1A17B1AeB6A37BtA8mcBcAnB4A1dB6isAa6B2A2yB12A7BcA5B5A1B1AaB1AdB1A5B1A1B1A2B1A2B1A30",
   "BxA3vB6A62BiA1sB2A1iB14AaB3bA1B1A1B3A1B1A1B1A1B1A1B1A3iB10AqB6AqBbA1kB2AvB3A6B2A6B2A6B2A3BzA",
   "cB1AqB1AjB1A2B1AfB2AeByA3fB1xA1hB7fAtB3A1dB1bAwBdAuB5A12BaAuB2A10B4A8B1A5B16A4eBiA10B4A10B4A",
   "14B8A1gBcAbB1AfB1A7B1A2B1AbB1AfB1A7B1A2B3A1gBcA8nB9AmBaA8BoA6B1A16B1A9B1xA6B2A1B1A18B1A2B3A1",
   "B2AnBaAnB9AvB1tAjB1A2BaAmBaAqB1yA1kB6A2B1sA1BfA4B1A3B1AtB16AtB3AtBzA8B1AsBrA1iBaAmBaAjBdAiB3",
   "2A21B1jA1fBdA1fBdA10B12AsB9AnB6yA16B6A2BgA3B1nAtBaA1B8AmB16AiB1aAlBrAnBcA1hB1lA2B2A1BdA19BwA",
   "pBqA10BtA1B2A1B8AzB3A1BcA1cBeA4BlA1B1A1BzAiB1ApBjA2B1rA7B1A1B1A4B1AfB1AaB7A1bB12A8B2A2B2AmB1",
   "A7B1A2B1A5B3A1BiA1BcA5BuAaB1A1B2A1B1A12B1A1BpA1B1A1B18A1hBiA4BkA3BuA1cBkA2B1A1B54A1bB15A4B10",
   "A1cBkA1B1nA17BdA1B1zArB11A7B55A18B38A1sBvA8B2A1B2A8B1A2B1AoBfA1B1A1B2mA8B2A13BgA1B1A1BsA1BaA",
   "14B7A1BlA1BbA1aBjA1BiA21B5jAxBvA9B1A11BhA1B1dAuB34A7B1A2B1A12BlA1BpA6B1A2B1AwBeA1B93AjBfA1B1",
   "AdB1AyB3gA1B27ApmB2uA33BhA5gB218A2pBfAtsBhA6BpA32zB5Ag7B5a1AuB1cyAftB7AvBhA27BhAuBiA1cBgA4Bv",
   "AlB5AjBc0A19B5vA1sB3kA23B5A1B1uAdB1sA2B1A1BsA4qgB8AyeB15AaB6w7A4B1A7B1A2B1A83BfA1BtA3B2A1BeA",
   "4B8Ab0B1s4A2zB5AdB3A9B7AaB4meA2dB1A1zB1A2B2A1B2A2B2A4B1AcB1A1B1A7B1A1tB1A4B2A8B1A7B1AsB1A4B1",
   "A5B1A1B3A7B1A9gB2ApB1ApB1AvB1ApB1AvB1ApB1AvB1ApB1AvB1ApB1A8B1f8AvB6A6B79A1qB42A19BaA7BgA1B8x",
   "AuBiA18BdgAsB6cAuB2A1BdrA7B1A4B1A2B1AfB1A5hB1nA1wB7A1BxgA4B1ArB1A2B1A1B2A1B1AaB1A4B1A1B1A1B6",
   "A1B4A1B1A1B1A1B1A3B1A2B1A1B2A1B1A1B1A1B1A1B1A1B1A2B1A1B2A4B1A7B1A4B1A4B1A1B1AaB1AhB5A3B1A5B1",
   "AhB3esAwyoBwA37eB6A66B2A4g2BeA5rlBfAhaB1wiAf2B15uA3t7B5A38gBjgwgA"]

/-- The binary properties with their loose names. -/
def named : List (List String × RunTable) :=
  [(["alpha", "alphabetic"], alphabetic),
   (["ahex", "asciihexdigit"], asciiHexDigit),
   (["bidic", "bidicontrol"], bidiControl),
   (["bidim", "bidimirrored"], bidiMirrored),
   (["cased"], cased),
   (["caseignorable", "ci"], caseIgnorable),
   (["changeswhencasefolded", "cwcf"], changesWhenCasefolded),
   (["changeswhencasemapped", "cwcm"], changesWhenCasemapped),
   (["changeswhenlowercased", "cwl"], changesWhenLowercased),
   (["changeswhentitlecased", "cwt"], changesWhenTitlecased),
   (["changeswhenuppercased", "cwu"], changesWhenUppercased),
   (["dash"], dash),
   (["defaultignorablecodepoint", "di"], defaultIgnorableCodePoint),
   (["dep", "deprecated"], deprecated),
   (["dia", "diacritic"], diacritic),
   (["emoji"], emoji),
   (["ecomp", "emojicomponent"], emojiComponent),
   (["emod", "emojimodifier"], emojiModifier),
   (["ebase", "emojimodifierbase"], emojiModifierBase),
   (["emojipresentation", "epres"], emojiPresentation),
   (["extendedpictographic", "extpict"], extendedPictographic),
   (["ext", "extender"], extender),
   (["graphemebase", "grbase"], graphemeBase),
   (["graphemeextend", "grext"], graphemeExtend),
   (["graphemelink", "grlink"], graphemeLink),
   (["hex", "hexdigit"], hexDigit),
   (["hyphen"], hyphen),
   (["idcompatmathcontinue"], idCompatMathContinue),
   (["idcompatmathstart"], idCompatMathStart),
   (["idc", "idcontinue"], idContinue),
   (["ideo", "ideographic"], ideographic),
   (["idsb", "idsbinaryoperator"], idsBinaryOperator),
   (["ids", "idstart"], idStart),
   (["idst", "idstrinaryoperator"], idsTrinaryOperator),
   (["idsu", "idsunaryoperator"], idsUnaryOperator),
   (["joinc", "joincontrol"], joinControl),
   (["loe", "logicalorderexception"], logicalOrderException),
   (["lower", "lowercase"], lowercase),
   (["math"], math),
   (["mcm", "modifiercombiningmark"], modifierCombiningMark),
   (["nchar", "noncharactercodepoint"], noncharacterCodePoint),
   (["oalpha", "otheralphabetic"], otherAlphabetic),
   (["odi", "otherdefaultignorablecodepoint"], otherDefaultIgnorableCodePoint),
   (["ogrext", "othergraphemeextend"], otherGraphemeExtend),
   (["oidc", "otheridcontinue"], otherIdContinue),
   (["oids", "otheridstart"], otherIdStart),
   (["olower", "otherlowercase"], otherLowercase),
   (["omath", "othermath"], otherMath),
   (["otheruppercase", "oupper"], otherUppercase),
   (["patsyn", "patternsyntax"], patternSyntax),
   (["patternwhitespace", "patws"], patternWhiteSpace),
   (["pcm", "prependedconcatenationmark"], prependedConcatenationMark),
   (["qmark", "quotationmark"], quotationMark),
   (["radical"], radical),
   (["regionalindicator", "ri"], regionalIndicator),
   (["sentenceterminal", "sterm"], sentenceTerminal),
   (["sd", "softdotted"], softDotted),
   (["term", "terminalpunctuation"], terminalPunctuation),
   (["uideo", "unifiedideograph"], unifiedIdeograph),
   (["upper", "uppercase"], uppercase),
   (["variationselector", "vs"], variationSelector),
   (["space", "whitespace", "wspace"], whiteSpace),
   (["xidc", "xidcontinue"], xidContinue),
   (["xids", "xidstart"], xidStart)]

end NestedRouting.Unicode.Binary
