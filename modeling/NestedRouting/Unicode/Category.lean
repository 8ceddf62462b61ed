import NestedRouting.Unicode.RunTable

/-!
# General categories

Every code point has one of thirty general categories (`Category.of`). A category or a group of
categories is named as in the Unicode Character Database, in the loose spelling of
`NestedRouting.Unicode.looseName`. Surrogates are not characters, so their category has no name.
-/

namespace NestedRouting.Unicode

/-- The general category of a code point. -/
inductive Category
  | uppercaseLetter
  | lowercaseLetter
  | titlecaseLetter
  | modifierLetter
  | otherLetter
  | nonspacingMark
  | spacingMark
  | enclosingMark
  | decimalNumber
  | letterNumber
  | otherNumber
  | connectorPunctuation
  | dashPunctuation
  | openPunctuation
  | closePunctuation
  | initialPunctuation
  | finalPunctuation
  | otherPunctuation
  | mathSymbol
  | currencySymbol
  | modifierSymbol
  | otherSymbol
  | spaceSeparator
  | lineSeparator
  | paragraphSeparator
  | control
  | format
  | surrogate
  | privateUse
  | unassigned
  deriving DecidableEq, Repr

namespace Category

/-- All categories, in the order in which `table` numbers them. -/
def all : Array Category :=
  #[.uppercaseLetter,
   .lowercaseLetter,
   .titlecaseLetter,
   .modifierLetter,
   .otherLetter,
   .nonspacingMark,
   .spacingMark,
   .enclosingMark,
   .decimalNumber,
   .letterNumber,
   .otherNumber,
   .connectorPunctuation,
   .dashPunctuation,
   .openPunctuation,
   .closePunctuation,
   .initialPunctuation,
   .finalPunctuation,
   .otherPunctuation,
   .mathSymbol,
   .currencySymbol,
   .modifierSymbol,
   .otherSymbol,
   .spaceSeparator,
   .lineSeparator,
   .paragraphSeparator,
   .control,
   .format,
   .surrogate,
   .privateUse,
   .unassigned]

/-- The category of every code point, by number. -/
def table : RunTable := RunTable.ofLines
  ["wZ1W3R1T3R1N1O1R1S1R1M2RaI2R3S2RqA1N1R1O1U1L1UqB1N1S1O1SxZ1W1R4T1V1R1U1V1E1P1S1BA1V1U1V1S2K1",
   "U1B2R1U1K1E1Q3K1RnA1S7AoB1S8B1A1B1A1B1A1B1A1B1A1B1A1B1A1B1A1B1A1B1A1B1A1B1A1B1A1B1A1B1A1B1A1",
   "B1A1B1A1B1A1B1A1B1A1B1A1B1A1B1A1B1A1B1A1B1A1B1A2B1A1B1A1B1A1B1A1B1A1B1A1B1A1B1A2B1A1B1A1B1A1",
   "B1A1B1A1B1A1B1A1B1A1B1A1B1A1B1A1B1A1B1A1B1A1B1A1B1A1B1A1B1A1B1A1B1A1B1A1B1A1B1A1B2A1B1A1B1A3",
   "B2A1B1A1B2A1B3A2B4A1B2A1B3A3B2A1B2A1B1A1B1A1B2A1B1A2B1A1B2A1B3A1B1A1B2A2B1E1A3B4E1A1C1B1A1C1",
   "B1A1C1B1A1B1A1B1A1B1A1B1A1B1A1B1A1B1A2B1A1B1A1B1A1B1A1B1A1B1A1B1A1B1A1B1A2B1A1C1B1A1B3A1B1A1",
   "B1A1B1A1B1A1B1A1B1A1B1A1B1A1B1A1B1A1B1A1B1A1B1A1B1A1B1A1B1A1B1A1B1A1B1A1B1A1B1A1B1A1B1A1B1A1",
   "B1A1B1A1B1A1B1A1B1A7B2A1B2A2B1A1B4A1B1A1B1A1B1A1B1A1xB1ErBiD4UcDeU5D7U1D1U1DhU34F1A1B1A1B1D1",
   "U1A1B2BD1D3B1R1A4BD2U1A1R3A1BD1A1BD2A1BhA1BD9AzB1A2B3A3B1A1B1A1B1A1B1A1B1A1B1A1B1A1B1A1B1A1B",
   "1A1B1A1B1A5B1A1B1S1A1B2A2B1fA1cB1A1B1A1B1A1B1A1B1A1B1A1B1A1B1A1B1A1B1A1B1A1B1A1B1A1B1A1B1A1B",
   "1A1B1A1B1V5F2H1A1B1A1B1A1B1A1B1A1B1A1B1A1B1A1B1A1B1A1B1A1B1A1B1A1B1A1B1A1B1A1B1A1B1A1B1A1B1A",
   "1B1A1B1A1B1A1B1A1B1A1B1A1B1A1B2A1B1A1B1A1B1A1B1A1B1A1B1A2B1A1B1A1B1A1B1A1B1A1B1A1B1A1B1A1B1A",
   "1B1A1B1A1B1A1B1A1B1A1B1A1B1A1B1A1B1A1B1A1B1A1B1A1B1A1B1A1B1A1B1A1B1A1B1A1B1A1B1A1B1A1B1A1B1A",
   "1B1A1B1A1B1A1B1A1B1A1B1A1B1A1B1A1B1A1B1A1B1A1B1A1B1A1B1A1B1A1B1A1B1BD12A2BD1D6R15B1R1M2BD2V1",
   "T1BD19F1M1F1R2F1R2F1R1F8BDrE4BD4E2RbBD6BA3S2R1T2R2VbF1R1BA3RwE1DaElFaI4R2E1F2rE1R1E7F1BA1V6F",
   "2D2F1V4F2EaI3E2V1EeR1BD1BA1E1FuErF2BD2hEbF1EeBDaIxE9F2D1V3R1D2BD1F2TmE4F1D9F1D3F1D5F2BDfR1BD",
   "pE3F2BD1R1BDbE5BDoE1U6E1BD2BA5BD9F15E1DoF1BAwF1G1iE1F1G1F1E3G8F4G1F2G1E7FaE2F2RaI1R1DfE1F2G1",
   "BD8E2BD2E2BDmE1BD7E1BD1E3BD4E2BD1F1E3G4F2BD2G2BD2G1F1E8BD1G4BD2E1BD3E2F2BDaI2E2T6K1V1T1E1R1F",
   "2BD2F1G1BD6E4BD2E2BDmE1BD7E1BD2E1BD2E1BD2E2BD1F1BD3G2F4BD2F2BD3F3BD1F7BD4E1BD1E7BDaI2F3E1F1R",
   "aBD2F1G1BD9E1BD3E1BDmE1BD7E1BD2E1BD5E2BD1F1E3G5F1BD2F1G1BD2G1F2BD1EfBD2E2F2BDaI1R1T7BD1E6F1B",
   "D1F2G1BD8E2BD2E2BDmE1BD7E1BD2E1BD5E2BD1F1E1G1F1G4F2BD2G2BD2G1F7BD2F1G4BD2E1BD3E2F2BDaI1V1E6K",
   "aBD1F1E1BD6E3BD3E1BD4E3BD2E1BD1E1BD2E3BD2E3BD3E3BDcE4BD2G1F2G3BD3G1BD3G1F2BD1E6BD1GeBDaI3K6V",
   "1T1V5BD1F3G1F8E1BD3E1BDnE1BDgE2BD1F1E3F4G1BD3F1BD4F7BD2F1BD3E2BD1E2BD2E2F2BDaI7BD1R7K1V1E1F2",
   "G1R8E1BD3E1BDnE1BDaE1BD5E2BD1F1E1G1F5G1BD1F2G1BD2G2F7BD2G6BD2E1BD2E2F2BDaI1BD2E1GcBD2F2G9E1B",
   "D3E1BD15E2F1E3G4F1BD3G1BD3G1F1E1V4BD3E1G7K3E2F2BDaI9K1V6E1BD1F2G1BDiE3BDoE1BD9E1BD1E2BD7E3BD",
   "1F4BD3G3F1BD1F1BD8G6BDaI2BD2G1RcBD1cE1F2E7F4BD1T6E1D8F1RaI2R11BD2E1BD1E1BD5E1BDoE1BD1E1BDaE1",
   "F2E9F1E2BD5E1BD1D1BD7F1BDaI2BD4EwBD1E3VfR1V1R3V2F6VaIaK1V1F1V1F1V1F1N1O1N1O2G8E1BD10E4BDeF1G",
   "5F1R2F5EbF1BD10F1BD8V1F6V1BD2V5R4V2R11BD17E2G4F1G6F1G2F2G2F1EaI6R6E2G2F4E3F1E3G2E7G3E4FdE1F2",
   "G2F6G1F1E1GaI3G1F2V12A1BD1A5BD1A2BD17B1R1D3B95E1BD4E2BD7E1BD1E1BD4E2BD15E1BD4E2BDxE1BD4E2BD7",
   "E1BD1E1BD4E2BDfE1BD1lE1BD4E2BD1vE2BD3F9RkK3BDgEaV6BD2eA2BD6B2BD1Mh8E1V1RhE1WqE1N1O3BD23E3R3J",
   "8E7BDiE3F1G9BDjE2F1G2R9BDiE2FcBDdE1BD3E1BD2FcBD1gE2F1G7F8G1F2GbF3R1D3R1T1E1F2BDaI6BDaK6BD6R1",
   "M4R3F1BA1FaI6BDzE1D1hE7BD5E2FyE1F1E5BD1yEaBDvE1BD3F4G2F3G4BD2G1F6G3F4BD1V3BD2RaIuE2BD5EbBD18",
   "E4BDqE6BDaI1K3BDyVnE2F2G1F2BD2R1hE1G1F1G7F1BD1F1G1F2G8F6GaF2BD1FaI6BDaI6BD7R1D6R2BDeF1HgF1dB",
   "D4F1G1bE1F1G5F1G1F5G1F2G8E1BD2RaI7RaV9F9V3R2F1GuE1G4F2G2F1G3F2EaI18E1F1G2F3G1F1G3F2G8BD4R10E",
   "8G8F2G2F3BD5RaI3BD3EaIuE6D2R9B1A1B5BD17A2BD3A8R8BD3F1RdF1G7F4E1F6E1F2E1G2F1E5BD18B1rDdB1DyB1",
   "1D1sF1A1B1A1B1A1B1A1B1A1B1A1B1A1B1A1B1A1B1A1B1A1B1A1B1A1B1A1B1A1B1A1B1A1B1A1B1A1B1A1B1A1B1A1",
   "B1A1B1A1B1A1B1A1B1A1B1A1B1A1B1A1B1A1B1A1B1A1B1A1B1A1B1A1B1A1B1A1B1A1B1A1B1A1B1A1B1A1B1A1B1A1",
   "B1A1B1A1B1A1B1A1B1A1B1A1B1A1B1A1B1A1B1A1B1A1B1A1B1A1B1A1B1A1B1A1B1A1B1A1B1A1B1A1B1A1B1A1B1A1",
   "B1A1B1A1B1A1B1A1B1A1B1A1B1A9B1A1B1A1B1A1B1A1B1A1B1A1B1A1B1A1B1A1B1A1B1A1B1A1B1A1B1A1B1A1B1A1",
   "B1A1B1A1B1A1B1A1B1A1B1A1B1A1B1A1B1A1B1A1B1A1B1A1B1A1B1A1B1A1B1A1B1A1B1A1B1A1B1A1B1A1B1A1B1A1",
   "B1A1B1A1B1A1B1A1B1A1B1A1B1A1B1A1B1A1B1A9B8A6B2BD6A2BD8B8A8B8A6B2BD6A2BD8B1BD1A1BD1A1BD1A1BD1",
   "A8B8AeB2BD8B8C8B8C8B8C5B1BD2B4A1C1U1B3U3B1BD2B4A1C3U4B2BD2B4A1BD3U8B5A3U2BD3B1BD2B4A1C2U1BDb",
   "W5BA6M2R1P1Q1N2P1Q1N1P8R1X1Y5BA1W9R1P1Q4R2L3R1S1N1ObR1S1R1LaR1W5BA1BDaBA1K1D2BD6K3S1N1O1DaK3",
   "S1N1O1BDdD3BDxTfBDdF4H1F3HcFfBD2V1A4V1A2V1B3A2B3A1B1V1A2V1S5A6V1A1V1A1V1A1V4A1V1B4A1B4E1B2V2",
   "B2A5S1A4B1V1S2V1B1VgKzJ1A1B4J1K2V4BD5S5V2S4V1S2V1S2V1S7V1SvV2S2V1S1V1SvV7gS8V1N1O1N1OkV2S7V1",
   "N1O29V1SuVpS14V6S20VmBDbVlBD1oK26VmK53V1S9V1S1iV8S33V1S6wV1N1O1N1O1N1O1N1O1N1O1N1O1N1OuK18V5",
   "S1N1OvS1N1O1N1O1N1O1N1O1N1OgS74V3nS1N1O1N1O1N1O1N1O1N1O1N1O1N1O1N1O1N1O1N1O1N1O1rS1N1O1N1OwS",
   "1N1O76S1cVlS2V6S13V2BDwV1BD2xV1cA1cB1A1B3A2B1A1B1A1B1A1B4A1B1A2B1A6B2D3A1B1A1B1A1B1A1B1A1B1A",
   "1B1A1B1A1B1A1B1A1B1A1B1A1B1A1B1A1B1A1B1A1B1A1B1A1B1A1B1A1B1A1B1A1B1A1B1A1B1A1B1A1B1A1B1A1B1A",
   "1B1A1B1A1B1A1B1A1B1A1B1A1B1A1B1A1B1A1B1A1B1A1B1A1B1A1B1A1B1A1B1A1B1A1B1A1B1A1B1A1B1A2B6V1A1B",
   "1A1B3F1A1B5BD4R1K2R12B1BD1B5BD1B2BD1kE7BD1D1ReBD1FnE9BD7E1BD7E1BD7E1BD7E1BD7E1BD7E1BD7E1BD7E",
   "1BDwF2R1P1Q1P1Q3R1P1Q1R1P1Q9R1M2R1M1R1P1Q2R1P1Q1N1O1N1O1N1O1N1O5R1DaR2M4R1M1R1NdR2V3R1N1O1N1",
   "O1N1O1N1O1MyBDqV1BD2hVcBD5yVqBDgV1W3R1V1D1E1J1N1O1N1O1N1O1N1O1N1O2V1N1O1N1O1N1O1N1O1M1N2O1V9",
   "J4F2G1M5D2V3J1D1E1R2V1BD2eE2BD2F2U2D1E1M2iE1R3D1E5BD17E1BD2mE1BD2V4KaVwE12V9BD1VgEvV1BDaKuV8",
   "K1VfKwVaK13VfK8wV534E1sVg7pE1DvrE3BD1jV9BD14E6D2R7gE1D3RgEaI2EkBD1A1B1A1B1A1B1A1B1A1B1A1B1A1",
   "B1A1B1A1B1A1B1A1B1A1B1A1B1A1B1A1B1A1B1A1B1A1B1A1B1A1B1A1B1A1B1A1B1E1F3H1RaF1R1D1A1B1A1B1A1B1",
   "A1B1A1B1A1B1A1B1A1B1A1B1A1B1A1B1A1B1A1B1A1B2D2F1yEaJ2F6R8BDnU9D2U1A1B1A1B1A1B1A1B1A1B1A1B1A3",
   "B1A1B1A1B1A1B1A1B1A1B1A1B1A1B1A1B1A1B1A1B1A1B1A1B1A1B1A1B1A1B1A1B1A1B1A1B1A1B1A1B1A1B1A1B1A1",
   "B1A1B1A1B1A1B1A1B1A1B1A1B1A1B1A1B1D8B1A1B1A1B2A1B1A1B1A1B1A1B1A1B1D2U1A1B1A1B1E1A1B1A3B1A1B1",
   "A1B1A1B1A1B1A1B1A1B1A1B1A1B1A1B1A1B5A1B5A1B1A1B1A1B1A1B1A1B1A1B1A1B1A1B4A1B1A1B2A1B2BD1A1B1B",
   "D1B1BD1B1A1B1A1B1A1B1AlBD3D1A1B1E2D1B7E1F3E1F4E1FnE2G2F1G4V1F3BD6K2V1T1V6BD1gE4R8BD2G1eEgG2F",
   "8BD2RaI6BDiF6E3R1E1R2E1FaIsE8F2RnEbF2GbBD1RtE3BD3F1G1bE1F2G4F2G2F3GdR1BD1DaI4BD2R5E1F1D9EaI5",
   "E1BD15E6F2G2F2G2F9BD3E1F8E1F1G2BDaI2BD4RgE1D6E3V1E1G1F1G1eE1F1E3F2E2F5E2F1E1F1EoBD2E1D2RbE1G",
   "2F2G2R1E2D1G1FaBD6E2BD6E2BD6E9BD7E1BD7E1BD17B1U4D9B1D2U4BD28BzE2G1F2G1F2G1R1G1F2BDaI6BD8mcEc",
   "BDnE4BD1dE4BD1kwBB4xsBCa6E2BD2yE12BD7BcBD5B5BD1E1FaE1SdE1BD5E1BD1E1BD2E1BD2E1BD30EhUgBDa3E1O",
   "1NgV1sE2BD1iE7BD1VwBDcE1T3VgF7R1N1O1R6BDgF1R2M2L1N1O1N1O1N1O1N1O1N1O1N1O1N1O1N1O2R1N1O4R3L3R",
   "1BD4R1M1N1O1N1O1N1O3R1S1M3S1BD1R1T2R4BD5E1BD3rE2BD1BA1BD3R1T3R1N1O1R1S1R1M2RaI2R3S2RqA1N1R1O",
   "1U1L1UqB1N1S1O1S1N1O1R1N1O2RaE1D19E2DvE3BD6E2BD6E2BD6E2BD3E3BD2T1S1U1V2T1BD1V4S2VaBD3BA2V2BD",
   "cE1BDqE1BDjE1BD2E1BDfE2BDeEyBD3fE5BD3R4BD19K3BD9V1hJ4KhV2K3V1BDdV3BD1V1bBD19V1F3mBDtE3BD1dEf",
   "BD1FrK4BDwE4K9BDkE1J8E1J5BD12E5F5BDuE1BD1R10E4BD8E1R5J16BD14A14B26E2BDaI6BD10A4BD10B4BD14E8B",
   "D1gEbBD1RbA1BDfA1BD7A1BD2A1BDbB1BDfB1BD7B1BD2B3BD1gEcBD8nE9BDmEaBD8EoBD6D1BD16D1BD9D1xBD6E2B",
   "D1E1BD18E1BD2E3BD1E2BDnE1BD1R8KnE2V7KvE8BD9K1cBDjE1BD2E5BD5KmE6K3BD1RqE5BD1R1sBD1kE4BD2K2EgK",
   "2BD1aK1E3F1BD2F5BD4F4E1BD3E1BDtE2BD3F4BD1F9K7BD9R7BDtE2K1RtE3KwBD8E1VsE2F4BD5K7R9BD1iE3BD7Rm",
   "E2BD8KjE5BD8KiE7BD4RcBD7K28BD21E1jBD1fAdBD1fB7BD6K10E4F8BDaI6BDaI4E1D1EmA3BD5F1M1DmB8BD2S5sB",
   "DvK1BD16E1BD2F1M2BD2EgBD3E1jBD4FtEaK1E8BDmEbF4K5RmBDiE4F4R12BDlE7KkBDnE9BD1G1F1G1hEfF7R4BDkK",
   "aI1F2E2F1E9BD3F1G19E3G4F2G2F2R1BA4R1FaBD1BA2BDpE7BDaI6BD3F10E5F1G8F1BDaI4R1E2G1E8BDzE1F2R1E9",
   "BD2F1G1cE3G9F2G4E4R4F1R1G1FaI1E1R1E3R1BDkKbBDiE1BDpE3G3F2G1F1G2F6R1F2E1F1qBD7E1BD1E1BD4E1BDf",
   "E1BDaE1R6BD1bE1F3G8F5BDaI6BD2F2G1BD8E2BD2E2BDmE1BD7E1BD2E1BD5E1BD2F1E2G1F4G2BD2G2BD3G2BD1E6B",
   "D1G5BD5E2G2BD7F3BD5FbBDaE1BD1E2BD1E1BD12E1BD1E3G6F1BD1G2BD1G1BD4G1BD2G1F1G1F1E1F1E2R1BD2R8BD",
   "2FtBD1hE3G8F2G3F1G1F4E5RaI2R1BD1R1F3EuBD1cE3G6F1G1F4G2F1G2F2E1R1E8BDaI4mBD1bE3G4F2BD4G2F1G2F",
   "nR4E2FyBD1cE3G8F2G1F1G2F3R1EbBDaI6BDdRjBD17E1F1G1F2G6F1G1F1E1R6BDaI6BDkIsBDrE2BD1F1G1F2G4F1G",
   "5F4BDaI2K3R1V7E55BD18E3G9F1G2F1R2sBDwAwBaI9KcBD8E2BD1E2BD8E1BD2E1BDoE6G1BD2G2BD2F1G1F1E1G1E1",
   "G1F3R9BDaI1yBD8E2BD13E3G4F2BD2F4G1F1E1R1E1GrBD1EaF14E6F1G1E4F8R1F8BD1E6F2G3F1aEdF1G2F3R1E5Rd",
   "BD21E7BDaR52BDxE1ReBDaI6BD9E1BD11E1G7F1BD6F1G1F1E5RaBDaIjK3BD2RuE2BDmF1BD1G7F1G2F1G2F21BD7E1",
   "BD2E1BD12E6F3BD1F1BD2F1BD7F1E1F8BDaI6BD6E1BD2E1BDwE5G1BD2F1BD2G1F1G1F1E7BDaI8mBDjE2F2G2R7BD2",
   "F1E1GdE1BDyE2G5F3BD2G1F1G1FdRaI1F2dBD1EfBDlK8V4ThVdBD1RpmE2uBD33J1BD5RbBD5gE218BD2pE2RdBDtsE",
   "gBA1F6EfFaBD32zE5BDg7E5a1BDuEcF3G3FaI1c6BDftE7BDvE1BDaI4BD2R27E1BDaI6BDuE2BD5F1RaBD1cE7F5R4V",
   "4D1R1VaBDaI1BD7K1BDlE5BDjEc0BD3D14E2D3RaI5iBDwAwBnK4R2tBD23E4BD1F1E1jG7BD4FdD1sBD2D1R1D1FbBD",
   "2GeBD4qgE8BDyeE15BDaE6w7BD4D1BD7D1BD2D1BD83EfBD1EtBD3E2BD1EeBD4E8BDb0E1s4BD2zE5BDdE3BD9E7BDa",
   "E2BD1V2F1R4BA318BD6oVaI6BDc4V24BD1aF2BDnF9BD38V1oBD6uVaBD13V2BD1oV2G3F3V6G8BA8F2V7FuV4F1pVlB",
   "D1uV3F1V3eBDkKcBDkKcBD2fV9BDpK3rBDqAqBqA7B1BDiBqAqB1A1BD2A2BD1A2BD2A2BD4A1BD8A4B1BD1B1BD7B1B",
   "DbBqAqB2A1BD4A2BD8A1BD7A1BDqB2A1BD4A1BD5A1BD1A3BD7A1BDqBqAqBqAqBqAqBqAqBqAqBqAsB2BDpA1SpB1S6",
   "BpA1SpB1S6BpA1SpB1S6BpA1SpB1S6BpA1SpB1S6B1A1B2BD1eIe8V1jF4V1eF8V1FeV1F2V5RfBD5F1BDfFuoBDaB1E",
   "kB6BD6B5xBD7F1BDhF2BD7F1BD2F1BD5F5BD1qDxBD1F34BD19E3BD7F7D2BDaI4BD1E1V8wBDuE1FhBD18E4FaI5BD1",
   "TcwBDrE1D4FaI5yBDuE2F1EaI4BD1RdcBD7E1BD4E1BD2E1BDfE1BD5hE2BD9K7F15BDyAyB7F1D4BDaI4BD2RltBD1n",
   "K1V3K1T4K24BD19K1VfK5eBD4E1BDrE1BD2E1BD1E2BD1E1BDaE1BD4E1BD1E1BD1E6BD1E4BD1E1BD1E1BD1E1BD3E1",
   "BD2E1BD1E2BD1E1BD1E1BD1E1BD1E1BD1E1BD2E1BD1E2BD4E1BD7E1BD4E1BD4E1BD1E1BDaE1BDhE5BD3E1BD5E1BD",
   "hE1gBD2S7iBD18V4BD2sVcBDfV2BDfV1BDfV1BD11VaBDdK4hV1kBDtVdBD18V4BD9V7BD2VeBD6V4aBD6zV5Uk8V4BD",
   "hV3BDdV3BD3bV4BD2nV6BDcV4BD1VfBDcV4BD1kV8BDaV6BD14V8BDuV2BDcV4BD2V1qBD9gVcBDeV2BDdV3BDaV5BD1",
   "kV7BDfV2BDbV6BD9V7BD43V1BD2kVaIsmBDwyoEwBD37eE6BD66E2BD4g2EeBD5rlEfBDhaE1wiBDf2E15uBD3t7E5BD",
   "38gEf975BD1BAuBD2oBA3kBD6oF1e6oBD1ekeBC2BD1ekeBC2BD"]

/-- The general category of a character. -/
def of (c : Char) : Category := all.getD (table.value c) .unassigned

/-- The loose names of the categories and of the groups of categories. -/
def named : List (List String × List Category) :=
  [(["lu", "uppercaseletter"], [.uppercaseLetter]),
   (["ll", "lowercaseletter"], [.lowercaseLetter]),
   (["lt", "titlecaseletter"], [.titlecaseLetter]),
   (["lm", "modifierletter"], [.modifierLetter]),
   (["lo", "otherletter"], [.otherLetter]),
   (["mn", "nonspacingmark"], [.nonspacingMark]),
   (["mc", "spacingmark"], [.spacingMark]),
   (["me", "enclosingmark"], [.enclosingMark]),
   (["nd", "decimalnumber", "digit"], [.decimalNumber]),
   (["nl", "letternumber"], [.letterNumber]),
   (["no", "othernumber"], [.otherNumber]),
   (["pc", "connectorpunctuation"], [.connectorPunctuation]),
   (["pd", "dashpunctuation"], [.dashPunctuation]),
   (["ps", "openpunctuation"], [.openPunctuation]),
   (["pe", "closepunctuation"], [.closePunctuation]),
   (["pi", "initialpunctuation"], [.initialPunctuation]),
   (["pf", "finalpunctuation"], [.finalPunctuation]),
   (["po", "otherpunctuation"], [.otherPunctuation]),
   (["sm", "mathsymbol"], [.mathSymbol]),
   (["sc", "currencysymbol"], [.currencySymbol]),
   (["sk", "modifiersymbol"], [.modifierSymbol]),
   (["so", "othersymbol"], [.otherSymbol]),
   (["zs", "spaceseparator"], [.spaceSeparator]),
   (["zl", "lineseparator"], [.lineSeparator]),
   (["zp", "paragraphseparator"], [.paragraphSeparator]),
   (["cc", "control", "cntrl"], [.control]),
   (["cf", "format"], [.format]),
   (["co", "privateuse"], [.privateUse]),
   (["cn", "unassigned"], [.unassigned]),
   (["lc", "casedletter"], [.uppercaseLetter, .lowercaseLetter, .titlecaseLetter]),
   (["l", "letter"], [.uppercaseLetter, .lowercaseLetter, .titlecaseLetter, .modifierLetter, .otherLetter]),
   (["m", "mark", "combiningmark"], [.nonspacingMark, .spacingMark, .enclosingMark]),
   (["n", "number"], [.decimalNumber, .letterNumber, .otherNumber]),
   (["p", "punctuation", "punct"], [.connectorPunctuation, .dashPunctuation, .openPunctuation, .closePunctuation, .initialPunctuation, .finalPunctuation, .otherPunctuation]),
   (["s", "symbol"], [.mathSymbol, .currencySymbol, .modifierSymbol, .otherSymbol]),
   (["z", "separator"], [.spaceSeparator, .lineSeparator, .paragraphSeparator]),
   (["c", "other"], [.control, .format, .surrogate, .privateUse, .unassigned])]

/-- The categories of combining marks. -/
def marks : List Category := [.nonspacingMark, .spacingMark, .enclosingMark]

/-- The categories of numbers. -/
def numbers : List Category := [.decimalNumber, .letterNumber, .otherNumber]

end Category

end NestedRouting.Unicode
