import NestedRouting.Unicode.RunTable

/-!
# Ages and text segmentation classes

Properties with a few named values: the version of the standard that assigned a code point, and its
class in the segmentation of text into clusters, words and sentences. A code point without a named
value has the number after the last of them.
-/

namespace NestedRouting.Unicode

/-- A property with named values: the loose names of each value, and the values of the code points. -/
structure Enumerated where
  names : Array (List String)
  table : RunTable

namespace Enumerated

/-- The value with a loose name. -/
def value? (p : Enumerated) (name : String) : Option Nat := p.names.findIdx? (·.contains name)

/-- The version that assigned a code point, oldest first. -/
def age : Enumerated where
  names :=
    #[["1.1", "v11"], ["2.0", "v20"], ["2.1", "v21"], ["3.0", "v30"], ["3.1", "v31"], ["3.2", "v32"],
      ["4.0", "v40"], ["4.1", "v41"], ["5.0", "v50"], ["5.1", "v51"], ["5.2", "v52"], ["6.0", "v60"],
      ["6.1", "v61"], ["6.2", "v62"], ["6.3", "v63"], ["7.0", "v70"], ["8.0", "v80"], ["9.0", "v90"],
      ["10.0", "v100"], ["11.0", "v110"], ["12.0", "v120"], ["12.1", "v121"], ["13.0", "v130"],
      ["14.0", "v140"], ["15.0", "v150"], ["15.1", "v151"], ["16.0", "v160"]]
  table := RunTable.ofLines
    ["dyA4DuA8D1F1GiD3GbHeI2hA5D2G1bA1DaA5DhG1yA9D1F8G5H3G2A1DdF4J2A2J2BB1A3I1A1P4BB7A1BB1A1BBkA1B",
     "B18A1J7A1D2F1A1D1A1D1A1D1A1DiA2E1F5G4H1DcA1D1uA1DcA1D15A1J2D2F4D1hA2F2A2F2A2F1IsA2D8A2H2A6Ig",
     "F4IgJ2K2L8P1BB12A2BB7A1T13A1T1A1D2BB2P1M1BBhB1HdBaA1I9A1B3H8BBrA4BB1T5AbBB4G1M1P5J1H1A9G5J1A",
     "1O1X1H1A1LqA5JjA3D3G6H1LeA2F20A2D5A1DfA1DuA2GaA5D1GeD1BBuD3GrD2BB3GuHiJ1dD1FeBB1nI2BB3T1aK2B",
     "BfK1BBsL2BB1L1BBbS5BBvX1BB2X5BB1BA8X1M1PbM6P2Q1X8RaWbX1TfR1QrM1P1K3A1G1hA2LiA1K1L5A1K2LpA2J5",
     "L1P2K2I1H2I1P3A1BB8A2BB2A2BBmA1BB7A1BB1A3BB4A2BB1A1G7A2BB2A2BB3A1H8BB1A4BB2A1BB5A2BBlA1K2S1T",
     "2BB1G1A1G1BB6A4BB2A2BBmA1BB7A1BB2A1BB2A1BB2A2BB1A1BB5A4BB2A2BB3A3BB1J7BB4A1BB1A7BBfA1J1TaBB3",
     "A1BB7A1G1A1BB3A1BBmA1BB7A1BB2A1BB5A2BBaA1BB3A1BB3A2BB1AfBB1A3G2BBaA1M1G7BB1Q6S1BB3A1BB8A2BB2",
     "A2BBmA1BB7A1BB2A1BB1G4A2BB8A1J2BB2A2BB3A7BB1W2A4BB2A1BB3A2J2BBbA1G6LaBB2A1BB6A3BB3A1BB4A3BB2",
     "A1BB1A1BB2A3BB2A3BB3A3BB8A1H3A4BB5A3BB3A1BB4A2BB1J6BB1AeBB1HcA8G5BB1P3A1T8A1BB3A1BBnA1BBaA1P",
     "5A2BB1X1J7A1BB3A1BB4A7BB2A1BB2J1Q2BB1X2BB2A2J2BBaA7BB1U8J1R1P2A1T8A1BB3A1BBnA1BBaA1BB5A2BB2G",
     "7A1BB3A1BB4A7BB2A6BB1X1A1BB2A2I2BBaA1BB2I1YcBB1S1P2A1W8A1BB3A1BBnA1LgA1L2S1J6A1J1BB3A1BB4A1L",
     "1R4BB3R1A7R1Q2A2J2BBaA6J3R7J1BB1W2D1BBiD3BBoD1BB9D1BB1D2BB7D3BB1D4BB6D1BB1D1BB8D6BBaP2BB3DcB",
     "B1mA4BBtA11BB2A1BB1A1BB1U2A1U1A1BB1U1A6U4A1U7A1U3A1BB1A1BB1A2U2A1UdA1U3A2BB5A1BB1A1BB6A1Y1BB",
     "aA2BB2A2MwBB20B1BBxB1D2J4BBrB4L6B1D1B1BBlB3D7B1D1B3D1BBfD1BB1J1D2H3J4K2L11BByD1J5D1J2D1J7D3J",
     "4D6JqD1sJ4K2J12A1BB1M5BB1M2BB13A2F2H1A1H3M2iA5K1wA5K2aA6K7D1H1rD1H1D1BB4D2BB7D1BB1D1BB4D2BB1",
     "3D1H1D1BB4D2BBvD1H1D1BB4D2BB7D1BB1D1BB4D2BB7D1H7D1BBnD1HvD1H1D1BB4D2BB7D1H13D1HjD2BB2L2HsD3B",
     "BqH6BB2dD1Q2BB6Q2BB1KhiD9KtD3BB29D8P7BBdF1X7F1X9BB1XnF9BBkFcBBdF1BB3F1BB2FcBB2lD1G2BBaD6BBaG",
     "6BBfD1XaD6BB2gD1T7BB16D1J5BB1yKaBBtG2P1BBcG4BBcG4BB1G3BB16G2BB5GbBB16H2K4BBqH6BBaH1K3BB2HwGs",
     "H2BB2H1rK1BBtK2BBbK6BBaK6BBeK2BBfP2WeX1dBB24I1X1BB2BA19I2X1BA17J3McJ6M1gL8BB4L1kJ3BBfJ3BB1fJ",
     "9R2BA5BB17T2BB3T8M8BBzK4M1S2P1U5BB30G2gH7IsJfP4S1X1R1L1K2I4bA1B4J2iA6JmA2BB6A2BB12A2BB6A2BB8",
     "A1BB1A1BB1A1BB1A1BBvA2BB1hA1BBfA1BBeA2BB6A1BBjA2BB3A1BB9A1BB1bA1DnA1F6D5F2G2H1F7H5F1J1BB4O7A",
     "1F2BBrA1BB5H8L3BBbA1B1C3D2F4H3K1L1N3P1Q1S1XfBBiA2D7F1H4I1JfBB1lA2D1G1HfF1H2I1J3K1cA1D1I4J1K2",
     "Q4BB2jA9DcF6qAeF1A1D3dA1D1FuD1gF2GbHcI1KbL7P4R1S11A2D3BAmBBbAlBB3vAkF1G46AaF28A8D8FkA2G2F1H1",
     "D2eA2DcF2HaF8GbH1J2K2GgH1IaJ3K4JaK1LjK1L1K4LoK1P4A1L4A2LsA1LzA1L1A1L4A3L1A1K7A2L7AeFvA3LoA1L",
     "eA1L7H4I1M1J1M2LsF4JgF74De8FeG6H7I5J4I15J3P5J5KqP2BBwP1BB1WyP3TcP1U8P1SpT4QfT1U1bH1X1bH1XdI3",
     "J1K3J4I6J2K2zH7K2M5BB19H1BB1M5BB1M2BB1iH2M7BB1H1LeBB1LnH9BB7H1BB7H1BB7H1BB7H1BB7H1BB7H1BB7H1",
     "BB7H1BBwJoH4J2HjJ1KaM7P2R5S5T1U3WbXyBBqD1BB2hDcBB5yDqBBcD4Z1kA3D3F1D1A1BB2cA2F2BB6A2F2mA1F5B",
     "B14A1J1S1T1BB2mA1BBgAoD3L5WgHkJ2BA9BB1ZgFtA2G1BB10AcK1GfFsA2G1H1eAfFcA4G1bA1V3bA4G2rA2GvA1G5",
     "2uDaW1sGg4mAmH8J8K1M9QlS5TdW3XwdD3BBiD2FgD1FcD1F3D1F1D9BB1cK8cJkBBwJ2LiJ8MsJ6P1Q1M2gK8BBnH4I",
     "5J2I2zJ2L1Q2L2McPaL1M3P1R1T2P6Q2T6U2X5U4W3BA2BB2X1BB1X1BB5X3BAlBB3X2W1P2M1L5J18H1W3BBaK6BB1k",
     "I8BB1xJ1R8BBcJ6BBsK2Q2T2cJbBB1JtK3BB26K1BBbK4BB2KvP1BB1jJ9BBeJ2BBaJ2BB4JsK4P1vKoBB5KnMaBB6L2",
     "BB6L2BB6L9BB7L1BB7L1BB1cP4Q2P2U4W4BB28Q1aK2BBaK6BB8mcBcBBnK4BB1dK1l0BB566A2M1nF3K2BB2yH12BB7",
     "AcBB5A5BB1DpA1BB5A1BB1A1BB2A1BB2A1BB30AgL1XgBBa5AgX1sA2BB1iA7BB1XwEcA1F1G2XgFaH6BB4A3J7P2QlA",
     "2F2GaA1BBjA1BB4A4BB3A1F1A1BB3rA2BB1A1BB2mA2F2mA3BB6A2BB6A2BB6A2BB3A3BB7A1BB7AaBB3D1C3AcG1BBq",
     "G1BBjG1BB2G1BBfG2BBeGyBB3fG5BB3G4BB19G3BB9G23H2P2R1BBcJ1W3BB1P1bBB1aJ3mBBtJ3BB1dJfBBsP4BBvE1",
     "P4E9BB3SrE5BB17P5BBuG1BB1G10H4BBeH16BB12E2G12E28G2BBaG6BB10R4BB10R4BB14P8BB1gPbBB1PbX1BBfX1B",
     "B7X1BB2X1BBbX1BBfX1BB7X1BB2X3BB1gBAcBB8nP9BBmPaBB8PoBB6X1BB16X1BB9X1xBB6G2BB1G1BB18G1BB2G3BB",
     "1G2BB1GmK1BB9K1rP8BB9P1cBBjQ1BB2Q5BB5QqI2K3BB1IqJ5BB1J1sBB1kM4BB2Q2MgQ2BB1aQ4H1BB2H5BB8H1BB3",
     "H1BBrH2T2BB3H4BB9H1T7BB9H7BBwKwPwBB13P4BBcP9BB1iK3BBtK2BBrK5BB8KiP7BB4PcBB7P28BB21K1jBB1fQdB",
     "B1fQ7BB6Q14T8BBaT6BB12BA3BBtBA8BB2BA5sBBvK1BB16W1BB3W2BB2WgBB3BA1jBB1BA3Y14T8BB16TmBBqX12BBs",
     "WkBBnU9BB26L4BBuL6X9BB1P1uK1XaBB1T2BBpM7BBaM6BB1hM1BBeM3T1W8BB13P9BB21M4Q1P2WaM1P5Q1BBkPbBBi",
     "P1BB17P1R3Y1qBB7Q1BB1Q1BB4Q1BBfQ1BBbQ6BB1nP5BBaP6BB1Q3P1BB8P2BB2P2BBmP1BB7P1BB2P1BB5P1BB1T9P",
     "2BB2P2BB3P2BB1Q6BB1P5BB7P2BB7P3BB5PbBBaBA1BB1BA2BB1BA1BB12BA1BBaBA1BB1BA2BB1BA1BB4BA1BBaBA1B",
     "B2BA8BB2BAtBB2iR1W1R1BB1R1T1U2WuBB20P8BBaP4mBB1iP2BBiPkQyBB1xPbBBaP6BBdRjBB1kM1U1X6BBaM6BBkB",
     "AsBBqQ1T2BBfQ4BBgQ7X55BB1oT2sBB2bPcBB1P7W2BB1W2BB8W1BB2W1BBuW1BB2W2BBcW9BBaW1yBB8U2BB1aU2BBb",
     "UrBB20S8BB1gS2UnS1T5SdBBgX1lP7BBaY52BByBAeBBaBA6BB9R1BB19R1BBeRaBBtR3BBwR2BBmR1BBeR21BB7S1BB",
     "2S1BB18S3BB1S1BB2S1BB9S8BBaS6BB6T1BB2T1BB11T1BB2T1BB6T7BBaT8mBBpT7BBhY1BB15Y3BBsY1BA2dBB1WfB",
     "B1eUdBB1UofI16P1Q2uBB2rIcP1BB4I1PbBB5gQ218BB2rXdBBtrK1Y9UtYaBB32zBA5BBg7Q5a1BB1mBA1c6BBftL7B",
     "BvP1BBaP4BB2P27X1BBaX6BBuP2BB6PaBB1yPaBBaP1BB7P1BBlP5BBjPc0BB1mBA5iBB2jT2tBB1xM6U4BB1U1bM9U7",
     "BBhM1sBB1R1S2U1WbBB2WeBB4q5R5T6U8BBkzRdfW15BB1BA9W6w7BB4X1BB7X1BB2X1BB2L7xS4XfBB1YtBB3U2BB1Y",
     "eBB4U8BBb0S1s4BB2zP5BBdP3BB9P7BBaP2BB8P318BB6yBA6BBc4BA24BB1aX2BBnX9BB38X1oBB6uEaBB13E2BB1J5",
     "0EbQ2XlBB1yH3eBBkYcBBkTcBB2fG9BBiI7T3rBB2dE1BB1zE1BB2E2BB1E2BB2E2BB4E1BBcE1BB1E1BB4E1G2E1BB1",
     "tE1BB4E2BB8E1BB7E1BBsE1BB4E1BB5E1BB1E3BB7E1BB9eE2H2BB82E2I2BB1eEi4QfBB5Q1BBfQuoBBvX6BB6Y5xBB",
     "7R1BBhR2BB7R1BB2R1BB5R5BB1qYxBB1Y34BB19U3BBeU2BBaU4BB2U8wBBvXhBB1mU5BB1UcwBB16Y5yBB17BA4BB1B",
     "AdcBB7X1BB4X1BB2X1BBfX1BB5hP2BBgP15BB23R1U4BBaR4BB2RltBB1wT24BB1pU5eBB4M1BBrM1BB2M1BB1M2BB1M",
     "1BBaM1BB4M1BB1M1BB1M6BB1M4BB1M1BB1M1BB1M1BB3M1BB2M1BB1M2BB1M1BB1M1BB1M1BB1M1BB1M1BB2M1BB1M2B",
     "B4M1BB7M1BB4M1BB4M1BB1M1BBaM1BBhM5BB3M1BB5M1BBhM1gBB2M7iBB18J4BB2sJcBBfL2BBeL1P1BBfL1BBfLmPa",
     "BBbK2P3WvK1T1L1KbL1K1L1K2L1K3L1K3L5K8L1K7L1KaL2M1U3W9L1K1L2K2L1KaL4K2L1KaLiR1W1kBBqL1K2LdBBy",
     "K9L1R4BB9K7BB2LeBB6S4aBBxLcP3Q6L1P1yL1P2QkLcP11L1P5L4P5QcPhL7P8Q1rL1P1L1P52L1P4L2P1Q1qL2P4M7",
     "P5QoLiP1R15P1R2eP5L1MgL1M3L1M1L1M1L1M1L1M3L1M6L2M4L1M1L2M4L1McL2P2QbL1cP1yLaP1Q2R2S1U2W4BB1Y",
     "3XdP3BB4P3R2S1T1U2W3BB38L3Y4BB5Y2dP4T1Y6BBcU4BB1XfBBcP4BB1kP8BBaP6BB14P8BBuP2BB2WaBA4BB2BA1q",
     "BBcS1W3U9Q6R1S8R8S1R2ScR1UcR1S3TfRdS5T1U1W4T2W1X1T1U4T5QdR6SbT2W6U3W2UaT6U1Q2T8U1W1X3UnSpT2c",
     "UcBBeT2BB4U1W3Y3U2X3BB3U4W2Y1BA5BB1BA6UjW4X3Y7W4X3Y1BA1Y3W3X1BA7BB2Y7W3X2Y1BA2BB1BA8X1Y1BA6B",
     "B7X2Y7BB43W1BB1jW11BAaWskBB2BwyfE7W2XwBB379K4X1Y6BB66L2BB4g2QeBB5rlSfBBhaZ1wiBBf2E15sBB2B3t7",
     "W5BB38gY17imBB2B1ekeBB2B1ekeBB2B1ekeBB2B1ekeBB2B1ekeBB2B1ekeBB2B1ekeBB2B1ekeBB2B1ekeBB2B1eke",
     "BB2B1BB1EuBB2oE3kBB6oG1e6mBB2t4yB"]

/-- The class of a code point in the segmentation into clusters. -/
def cluster : Enumerated where
  names :=
    #[["cr"], ["cn", "control"], ["ex", "extend"], ["l"], ["lf"], ["lv"], ["lvt"], ["pp", "prepend"],
      ["regionalindicator", "ri"], ["sm", "spacingmark"], ["t"], ["v"], ["zwj"]]
  table := RunTable.ofLines
    ["aB1E2B1AiB2nNxBdN1BgiN34C7nN7C7bN19C1N1C1N2C1N2C1N1C1kN6HaNbC1N1B1aNlCgN1C2tN7C1H1N6C2N2C1N4",
     "CxN1H1N1CuNrC2jNbC1mN9C9N1CoN4C1N9C1N3C1N5C17N3C1gN2H5N9C16NoC1HwC1J1iN1C1J1C1N3J8C4J1C2J1N7",
     "CaN2CtN1C2J1kN1C1N1C2J4C2N2J2N2J1C9N1CaN2CqN1C2N2C1J1kN1C1N3J2C4N2C2N3C3N1CuN2C3N1CbN2C1J1kN",
     "1C1N3J5C1N2C1J1N2J1CkN2CmN6C1N1C2J1kN1C1N2C1J4C2N2J2N2J1C7N3CaN2CuN1C1nN1C1J1C2J3N3J1N3J1C9N",
     "1C14N1C3J1C1jN1C1N3C4J1N3C1N4C7N2CbN2CtN1C2J1kN1C1N1J2C1J1C2J1N3C1N4C7N2CbN2CfN1JcN2C2J1jN2C",
     "1N1C2J4C1N3J1N3J1C1H8N1CaN2CtN1C2J1yN1C4N1C2J3C1N1C1N7J1CiN2J1pN1C1N1J7CcN8C2qN1C1N1J9CbN7C2",
     "1N2CrN1C1N1C1N1C4N2J1dNeC1J5C1N2C5NbC1N10C9N1C2uN4C1J6C1N2C2J2CnN2J2C4N3CgN4CdN1C1N1J2C6N1Cf",
     "N1C2qN2oD20L2gK9pN3CqaN4CsN3CtN2CuN2C1sN2C1J7C8J1C2JbC9N1C19N3C1B1C39N2CyN1C3aN3C4J2C3J4N2J1",
     "C6J3C63N2C2J1C1lN1J1C1J7C1N1C1N1C2N8C6JaC2N1C1cNvC1dN4C1J1bNaC4J3C12N9CcN2C1JuN1J4C2J6C1kN1C",
     "1J2C3J1C1J5C1cN8J8C2J2C48N3C1NdC1J7C4N1C6N1C2N1J2C5iN1sCejN1B1C1M2BoN7B1dNgB2oNxC2daN3C3xN1C",
     "2oNwCfeN6C2xN2Cn9wN4C1NaCwN2C28N2C7kN1C3N1C4N1CnN2J2C1J4N1C2bN2J1eNgJ2CqNiCdN1C12N8CpNbC1J1C",
     "cNtD3N3C1J1bN1C2J4C2J2C2J1C10N1C1vN6C2J2C2J2CcN1C8N1C1J1aN1C1fN1C1N3C2N2C5N2C1N1C15N1J2C2J5N",
     "1J1C6kN2J1C2J1C2J1N1J1CiN1FrG1FrG1FrG1FrG1FrG1FrG1FrG1FrG1FrG1FrG1FrG1FrG1FrG1FrG1FrG1FrG1Fr",
     "G1FrG1FrG1FrG1FrG1FrG1FrG1FrG1FrG1FrG1FrG1FrG1FrG1FrG1FrG1FrG1FrG1FrG1FrG1FrG1FrG1FrG1FrG1Fr",
     "G1FrG1FrG1FrG1FrG1FrG1FrG1FrG1FrG1FrG1FrG1FrG1FrG1FrG1FrG1FrG1FrG1FrG1FrG1FrG1FrG1FrG1FrG1Fr",
     "G1FrG1FrG1FrG1FrG1FrG1FrG1FrG1FrG1FrG1FrG1FrG1FrG1FrG1FrG1FrG1FrG1FrG1FrG1FrG1FrG1FrG1FrG1Fr",
     "G1FrG1FrG1FrG1FrG1FrG1FrG1FrG1FrG1FrG1FrG1FrG1FrG1FrG1FrG1FrG1FrG1FrG1FrG1FrG1FrG1FrG1FrG1Fr",
     "G1FrG1FrG1FrG1FrG1FrG1FrG1FrG1FrG1FrG1FrG1FrG1FrG1FrG1FrG1FrG1FrG1FrG1FrG1FrG1FrG1FrG1FrG1Fr",
     "G1FrG1FrG1FrG1FrG1FrG1FrG1FrG1FrG1FrG1FrG1FrG1FrG1FrG1FrG1FrG1FrG1FrG1FrG1FrG1FrG1FrG1FrG1Fr",
     "G1FrG1FrG1FrG1FrG1FrG1FrG1FrG1FrG1FrG1FrG1FrG1FrG1FrG1FrG1FrG1FrG1FrG1FrG1FrG1FrG1FrG1FrG1Fr",
     "G1FrG1FrG1FrG1FrG1FrG1FrG1FrG1FrG1FrG1FrG1FrG1FrG1FrG1FrG1FrG1FrG1FrG1FrG1FrG1FrG1FrG1FrG1Fr",
     "G1FrG1FrG1FrG1FrG1FrG1FrG1FrG1FrG1FrG1FrG1FrG1FrG1FrG1FrG1FrG1FrG1FrG1FrG1FrG1FrG1FrG1FrG1Fr",
     "G1FrG1FrG1FrG1FrG1FrG1FrG1FrG1FrG1FrG1FrG1FrG1FrG1FrG1FrG1FrG1FrG1FrG1FrG1FrG1FrG1FrG1FrG1Fr",
     "G1FrG1FrG1FrG1FrG1FrG1FrG1FrG1FrG1FrG1FrG1FrG1FrG1FrG1FrG1FrG1FrG1FrG1FrG1FrG1FrG1FrG1FrG1Fr",
     "G1FrG1FrG1FrG1FrG1FrG1FrG1FrG1FrG1FrG1FrG1FrG1FrG1FrG1FrG1FrG1FrG1FrG1FrG1FrG1FrG1FrG1FrG1Fr",
     "G1FrG1FrG1FrG1FrG1FrG1FrG1FrG1FrG1FrG1FrG1FrG1FrG1FrG1FrG1FrG1FrG1FrG1FrG1FrG1FrG1FrG1FrG1Fr",
     "G1FrG1FrG1FrG1FrG1FrG1FrG1FrG1FrG1FrG1FrG1FrG1FrG1FrG1FrG1FrG1FrG1FrG1FrG1FrG1FrG1FrG1FrG1Fr",
     "G1FrG1FrG1FrG1FrG1FrG1FrG1FrG1FrG1FrG1FrG1FrG1FrG1FrG1FrG1FrG1FrG1FrG1FrG1FrG1FrG1FrG1FrG1Fr",
     "G1FrG1FrG1FrG1FrG1FrG1FrG1FrG1FrG1FrG1FrG1FrG1FrG1FrG1FrG1FrG1FrG1FrG1FrG1FrG1FrG1FrG1FrG1Fr",
     "G1FrG1FrG1FrG1FrG1FrG1FrG1FrG1FrG1FrG1FrG1FrG1FrG1FrG1FrGcNnL4N1dK6xuN1CkhNgCgNgC5rN1B4eN2C2",
     "8NcBe9N1C6aN1C45N5C1aeN3C1N2C5N4C14N3C4N1C4lN2CfxN4C1tN5C8tN2C27N4C1yNbC1dN4C3eN1J1C1J1hNfC1",
     "5N1C2N2CaN3C1J19N3J4C2J2C2N1H4N1CaN1H1eN3C10N5C1J8CgN2J18N1CcN2C1J1cN3J9C1J1C1N2H5N4C1N1J1C2",
     "kN3J3C2J4C6N1C2N1C4dN1C3J8ClN2C2J1jN2C1N1C1J1C4J2N2J2N2J1C9N1CaN2J2N7C3N5C1vN1C2J6C1N1C2N1C1",
     "N3C1J1N2J3C1H1CeN2C2aN3J8C2J3C1J1CnN1C29N1C2J6C1J1C2J1C1J2C1J2C6jN1C2J4C2N4J2C1J2CrN2C2aN3J8",
     "C2J1C1J2C2yN1C1J1C2J8C2tN1C1J1C2N4C1J5C74N3J9C1J2C6tN1C5J1N2J2N4C1H1J1H1J1C3xN3J4C2N2C4J1C3N",
     "1JsNaC14N6C1J1H4C8N1C9N6C2J3C14N6HdC1J2Cb9N1J7C1N6C1J1C2aNmC1N1J7C1J2C1J2C3eN6C3N1C1N2C1N7C1",
     "H1C1uN5J1N2C1N2J1C1J1C9nN2C2J9N2C1H1J1cN2J5C3N2J3CnN1C445NgB1C6NfC8ugNcC3J3C1xcN5C1nN7CfgN1L",
     "3N4LdgN1C1N1jJ7N4C29N1CbN2Cf57N2C1N4B3mkN1aC2NnCf2N5C3N6C8B8C2N7CuN4C44N3C1izN1jC4N1eC8N1CeN",
     "1CmN5C1NfC11sN7C1NhC2N7C1N2C1N5C2sN1C4gN7CafN1C1pN4Ce4N4C72N2CkgN7C31N7C1p7NqIe3N5Cgx6oNwB2o",
     "C3kB6oC2s0B44jkN"]

/-- The class of a code point in the segmentation into words. -/
def word : Enumerated where
  names :=
    #[["aletter", "le"], ["cr"], ["doublequote", "dq"], ["extend"], ["ex", "extendnumlet"],
      ["fo", "format"], ["hebrewletter", "hl"], ["ka", "katakana"], ["lf"], ["midletter", "ml"],
      ["midnum", "mn"], ["mb", "midnumlet"], ["newline", "nl"], ["nu", "numeric"],
      ["regionalindicator", "ri"], ["singlequote", "sq"], ["wsegspace"], ["zwj"]]
  table := RunTable.ofLines
    ["aS1I2M1BiS1Q1S1C4S1P4S1K1S1L1SaN1J1K5SqA4S1E1SqAaS1M10S1A2S1F7S1A1S1J2S1A5SnA1SvA1SdcA6SyA34",
     "D5A1S2A2S4A1K1A6S1A1J3A1S1A1SkA1S2bA1S3vA1S7D4mA1S12A2S4A1S1A1J15A1K1A6S19D1S1D1S2D1S2D1S1D8",
     "SrG4S4G1A1JbS6N6S2K2SbD1S1F3S17AlDaN1S1N1K1S2A1D2rA1S1A7D1N1S6D2A2D1S4D2AaN3A2S1AfS2A1DuArD2",
     "S2hAbD1AeSaNxA9D2A2S1K1S1A2S1D2SmA4D1A9D1A3D1A5DiSpA3D4SbA5SoA1S6A1S2N5S9D16AoD1NxD1iA3D1AiD",
     "1A7DaA2D2SaN1SgA3D1S8A2S2A2SmA1S7A1S1A3S4A2S1D1A7D2S2D2S3D1A8S1D4S2A1S3A2D2SaN2AaS1A1S1D2S3D",
     "1S6A4S2A2SmA1S7A1S2A1S2A1S2A2S1D1S5D4S2D2S3D3S1D7S4A1S1A7SaN2D3A1DbS3D1S9A1S3A1SmA1S7A1S2A1S",
     "5A2S1D1A8D1S3D1S3D2S1AfS2A2D2SaN9S1A6D1S3D1S8A2S2A2SmA1S7A1S2A1S5A2S1D1A7D2S2D2S3D7S3D4S2A1S",
     "3A2D2SaN1S1AgS1D1A1S6A3S3A1S4A3S2A1S1A1S2A3S2A3S3A3ScA4S5D3S3D1S4D2S1A6S1DeSaNgS5D8A1S3A1SnA",
     "1SgA2S1D1A7D1S3D1S4D7S2D1S3A2S1A2S2A2D2SaNgS1A3D1S8A1S3A1SnA1SaA1S5A2S1D1A7D1S3D1S4D7S2D6S2A",
     "1S2A2D2SaN1S2A1DcS4D9A1S3A1S15A2D1A7D1S3D1S4D1A5S3A1D7S3A2D2SaNaS6A1S3D1SiA3SoA1S9A1S1A2S7A3",
     "S1D4S6D1S1D1S8D6SaN2S2D1pS1D2S7DcS8D1SaN2fS1D2S9DbS7D1SaN12S1AnS2D6SaNbS1D1S1D1S1D4S2D8A1S10",
     "A4SkD1S2D5AbD1S10D9S1D2sSkD1SaNcS4D4S3D1S3D2S7D3S4DdScD1S1DaN4D2S12A1S1A5S1A2S17A1S99A1S4A2S",
     "7A1S1A1S4A2S15A1S4A2SxA1S4A2S7A1S1A1S4A2SfA1S1lA1S4A2S1vA2S3DwSgAgS2eA2S6A3Sh8A2ShA1QqA5S23A",
     "3SbA7SiA4D9SjA3DbSiA2DcSdA1S3A1S2D1sSwD9S1D2SaNxS3D1F1DaN6S2hA7S5A2DyA1D1A5S1yAaSvA1ScD4ScDa",
     "SaN3kSbN11SnA5D1lSaD1StD2S1DaN6SaNmSvD1dS5D1bAhD8A3SaNhS9DcS3DuAdD2AaN18AeDcS10AkD8SaN3S3AaN",
     "10A2SbA5S17A2S3AgS3D1SlD4A1D6A1D2A3D1A5S5cA1sD7qA2S6A2S12A2S6A2S8A1S1A1S1A1S1A1SvA2S1hA1S7A1",
     "S1A3S3A1S7A3S4A2S6A4SdA5S3A1S7A3S7Q1S3Q1S1D1R2F8S2LaS1L2S1J2M5F1EfS2E3S1KfS1EaS1Q5F1SaF1S1Ad",
     "S1AgSdA1fSxDhS1A4S1A2SaA1S1A3S5A6S1A1S1A1S1A1S4A1SbA2S4A5S5A4S1AhS15AmlS1gA1eeS6dA6S4A3D2AcS",
     "12A1S1A5S1A2S1kA7S1AfS1DnA9S7A1S7A1S7A1S7A1S7A1S7A1S7A1S7A1SwD1bS1AcwS1Q4S1A10S6D1S5H5S2A2kS",
     "2D2H3S2jH1S4H5S17A1S2mAhSwA1cSgH5sS1bH1S2gHlgoSwdA1vS1aA2S7hA3SgAaN2AkS1bA4D1SaD1SvA2D28A2Dm",
     "S5iA2S2A1S1A1S8AlSgA1D3A1D4A1DnA5D4S1DjS1gAcS2D1eAiDaSaN6SiD6A3S1A1S2A1DaNsA8D2SnAdDcStA3S4D",
     "1bAeDeS1AaNbS1DaSaN6S15AeD9S3A1D8A2D2SaNxS3D1eS1D1S3D2S2D5S2D1S1DuSbA5D2S3A2DaS6A2S6A2S6A9S7",
     "A1S7A1S1mA6S37A8D1S2D2SaN6S8mcAcSnA4S1dA6x0S7AcS5A5S1G1DaG1SdG1S5G1S1G1S2G1S2G1SaG2qAxSa3AiS",
     "1sA2S1iA14ScA4SgD3S1JcSgD3S2EoS3E1K1S1L1S1K1JqS5A1S3rA2S1F7S1L4S1K1S1L1SaN1J1K5SqA4S1E1SqAbS",
     "1kH2DvA3S6A2S6A2S6A2S3AsS3F4ScA1SqA1SjA1S2A1SfA2SeAyS3fA1xS1hA3sS1D3mStA3S1dAfS1DvSwAdSuA5S1",
     "2A5D5SuA2S10A4S8A1S5A16S4eA2SaN6S10A4S10A4S14A8S1gAcSbA1SfA1S7A1S2A1SbA1SfA1S7A1S2A3S1gAcS8n",
     "A9SmAaS8AoS6A1S16A1S9A1xS6A2S1A1S18A1S2A3S1A2SnAaSnA9SvA1tSjA1S2AaSmAaSqA1yS1kA6S2A1sS1A3D1S",
     "2D5S4D4A1S3A1StA2S3D4S1DwStA3StAzS8A1SsA2DpS1iAaSmAaSjAdSiA32S21A1jS1fAdS1fAdS10A4D8SaN6SaNs",
     "A3S5D1SnA6yS16A1S2D3S2AgS3A1jS4DtAaS1A8SmAbDvSiA4D16SlArSnA9S3D1hAfDvSaN1D2A2D1A9S4D19AbD2S1",
     "N4S1DaS1N2SpA7SaN6S3D10AeD1SaN4S1A2D1A8SzA1D2S1A9S3D1cAeD4A4S4D1S2DaN1A1S1AzSiA1SpAcD6S1D2A1",
     "D1qS7A1S1A1S4A1SfA1SaA7S1bAcD5SaN6S4D1S8A2S2A2SmA1S7A1S2A1S5A1S2D1A7D2S2D2S3D2S1A6S1D5S5A2D2",
     "S7D3S5DbSaA1S1A2S1A1S12A1S1A9D1S1D2S1D1S4D1S5D1A1D1AdS2DtS1hAiD4A5SaN4S1D3AuS1cAkD2A1S1A8SaN",
     "4mS1bA7D2S9DnS4A2DyS1cAhD3S1AbSaN12S17AdD1A7SaN6SkN1lSfD4SaN5iS18AfD2tS1sAaNlS8A2S1A2S8A1S2A",
     "1SoA6D1S2D2S4D1A1D1A2DcSaN1yS8A2S13A7D2S7D1A1S1A1DrS1AaD14A7D1A4D8S1D8S1AbD1aAgD3S1AiS21A5jS",
     "xAfSaN6S9A1S11A8D1S8D1AfSaNoSuA2SmD1SeD21S7A1S2A1S12A6D3S1D1S2D1S7D1A1D8SaN6S6A1S2A1SwA5D1S2",
     "D1S5D1A7SaN8mSjA4D9S2D1A1DdA1SyA7D3S5DdSaN1D2dS1A27SpmA2uS33AhS5gA218S2pAfStsAgF1D6AfDaS32zA",
     "5Sg7A5a1SuAiDaN1c6SftA7SvA1SaN6S27A1SaN6SuA2S5DbS1cA7D9S4AcSaN9SlA5SjAc0S19A3SaN5iS1sA3kS23A",
     "4S1D1A1jD7S4DdA1sS2A1S1A1DbS2Dcn2S4H1S7H1S2H1S1H7zS3H1eS1HeS4H23cS2zA5SdA3S9A7SaA3S2D1S4F37w",
     "SaNeeS1aD2SnDf2S5D3S6D8F8D2S7DuS4D44S3DcbS2dA1S1zA1S2A2S1A2S2A2S4A1ScA1S1A1S7A1S1tA1S4A2S8A1",
     "S7A1SsA1S4A1S5A1S1A3S7A1S9gA2SpA1SpA1SvA1SpA1SvA1SpA1SvA1SpA1SvA1SpA1S8A2S1eNe8S1jD4S1eD8S1D",
     "eS1DmS5D1SfDuoSvA6S6A5xS7D1ShD2S7D1S2D1S5D5S1qAxS1D34S19A3S7D7A2SaN4S1A8xSuA1DhS18A4DaNd2SsA",
     "4DaN5ySuA2D1AaNdhS7A1S4A1S2A1SfA1S5hAbS7D15S1wA7D1A4SaNx2S4A1SrA1S2A1S1A2S1A1SaA1S4A1S1A1S1A",
     "6S1A4S1A1S1A1S1A1S3A1S2A1S1A2S1A1S1A1S1A1S1A1S1A1S2A1S1A2S4A1S7A1S4A1S4A1S1A1SaA1ShA5S3A1S5A",
     "1ShAhgSqA6SqA6SqA2kSqOe3S5D1kgSaNgvlzS1FuS2oD3kS6oD47bkS"]

/-- The class of a code point in the segmentation into sentences. -/
def sentence : Enumerated where
  names :=
    #[["at", "aterm"], ["cr"], ["cl", "close"], ["ex", "extend"], ["fo", "format"], ["lf"],
      ["lo", "lower"], ["nu", "numeric"], ["le", "oletter"], ["sc", "scontinue"], ["st", "sterm"],
      ["se", "sep"], ["sp"], ["up", "upper"]]
  table := RunTable.ofLines
    ["9O1M1F2M1BiO1M1K1C4O3C2O2J1A1OaH2J3O1K1OqN1C1O1C3OqG1C1O1C7O1LqO1M9O1G1C1O1E7O1G4O1G1C4OnN1O",
     "7NoG1O8G1N1G1N1G1N1G1N1G1N1G1N1G1N1G1N1G1N1G1N1G1N1G1N1G1N1G1N1G1N1G1N1G1N1G1N1G1N1G1N1G1N1G",
     "1N1G1N1G1N1G1N1G1N1G1N1G1N2G1N1G1N1G1N1G1N1G1N1G1N1G1N1G1N2G1N1G1N1G1N1G1N1G1N1G1N1G1N1G1N1G",
     "1N1G1N1G1N1G1N1G1N1G1N1G1N1G1N1G1N1G1N1G1N1G1N1G1N1G1N1G1N1G2N1G1N1G1N3G2N1G1N1G2N1G3N2G4N1G",
     "2N1G3N3G2N1G2N1G1N1G1N1G2N1G1N2G1N1G2N1G3N1G1N1G2N2G1I1N3G4I2N1G2N1G2N1G1N1G1N1G1N1G1N1G1N1G",
     "1N1G1N1G1N2G1N1G1N1G1N1G1N1G1N1G1N1G1N1G1N1G1N2G2N1G1N1G3N1G1N1G1N1G1N1G1N1G1N1G1N1G1N1G1N1G",
     "1N1G1N1G1N1G1N1G1N1G1N1G1N1G1N1G1N1G1N1G1N1G1N1G1N1G1N1G1N1G1N1G1N1G1N1G1N1G1N1G1N7G2N1G2N2G",
     "1N1G4N1G1N1G1N1G1N1G1N1xG1I10G7I2G4OcIeO5G7O1I1O1IhO34D1N1G1N1G1I1O1N1G2O4G1J1N6O1N1O3N1O1N1",
     "O2N1GhN1O9NzG1N2G3N3G1N1G1N1G1N1G1N1G1N1G1N1G1N1G1N1G1N1G1N1G1N1G1N5G1N1G1O1N1G2N2G1fN1cG1N1",
     "G1N1G1N1G1N1G1N1G1N1G1N1G1N1G1N1G1N1G1N1G1N1G1N1G1N1G1N1G1N1G1N1G1O7D1N1G1N1G1N1G1N1G1N1G1N1",
     "G1N1G1N1G1N1G1N1G1N1G1N1G1N1G1N1G1N1G1N1G1N1G1N1G1N1G1N1G1N1G1N1G1N1G1N1G1N1G1N1G1N1G2N1G1N1",
     "G1N1G1N1G1N1G1N1G1N2G1N1G1N1G1N1G1N1G1N1G1N1G1N1G1N1G1N1G1N1G1N1G1N1G1N1G1N1G1N1G1N1G1N1G1N1",
     "G1N1G1N1G1N1G1N1G1N1G1N1G1N1G1N1G1N1G1N1G1N1G1N1G1N1G1N1G1N1G1N1G1N1G1N1G1N1G1N1G1N1G1N1G1N1",
     "G1N1G1N1G1N1G1N1G1N1G1N1G1N1G1O12N2O1I3O1J2O15G1K7O19D1O1D1O2D1O2D1O1D8OrI4O5IcO6H6O2J2ObD1O",
     "1E3K17IlDaH1O2H1O2I1D2rI1K1I7D1H1O6D2I2D1O4D2IaH3I2O1I3KcO1E1I1DuIrD2O2hIbD1IeOaHxI9D2I2O1J1",
     "K1I2O1D2OmI4D1I9D1I3D1I5D9O1K1O1K3O2K1OpI3D4ObI5OoI1O6I1O2H5O9D16IoD1HxD1iI3D1IiD1I7DaI2D2Ka",
     "H1OgI3D1O8I2O2I2OmI1O7I1O1I3O4I2O1D1I7D2O2D2O3D1I8O1D4O2I1O3I2D2OaH2IaO1I1O1D2O3D1O6I4O2I2Om",
     "I1O7I1O2I1O2I1O2I2O1D1O5D4O2D2O3D3O1D7O4I1O1I7OaH2D3I1DbO3D1O9I1O3I1OmI1O7I1O2I1O5I2O1D1I8D1",
     "O3D1O3D2O1IfO2I2D2OaH9O1I6D1O3D1O8I2O2I2OmI1O7I1O2I1O5I2O1D1I7D2O2D2O3D7O3D4O2I1O3I2D2OaH1O1",
     "IgO1D1I1O6I3O3I1O4I3O2I1O1I1O2I3O2I3O3I3OcI4O5D3O3D1O4D2O1I6O1DeOaHgO5D8I1O3I1OnI1OgI2O1D1I7",
     "D1O3D1O4D7O2D1O3I2O1I2O2I2D2OaHgO1I3D1O8I1O3I1OnI1OaI1O5I2O1D1I7D1O3D1O4D7O2D6O2I1O2I2D2OaH1",
     "O2I1DcO4D9I1O3I1O15I2D1I7D1O3D1O4D1I5O3I1D7O3I2D2OaHaO6I1O3D1OiI3OoI1O9I1O1I2O7I3O1D4O6D1O1D",
     "1O8D6OaH2O2DdO1cI1D2I7D5O7I8D1OaH13O2I1O1I1O5I1OoI1O1I1OaI1D2I9D1I2O5I1O1I1O7D1OaH2O4IwO1InO",
     "2D6OaHbO1D1O1D1O1D4C2D8I1O10I4OkD1O2D5IbD1O10D9O1D1lO17IkD1IaH2K4O6I4D4I3D1I3D2I7D3I4DdIcD1I",
     "1DaH4D2O12N1O1N5O1N2O17I1O1G98I1O4I2O7I1O1I1O4I2O15I1O4I2OxI1O4I2O7I1O1I1O4I2OfI1O1lI1O4I2O1",
     "vI2O3D2O1K4O2KnOgIgO2eN2O6G3Oh8I1O1KhI1MqI2C3O23I3ObI7OiI4D9OjI3D2K9OiI2DcOdI1O3I1O2DcO1gIwD",
     "2K1O1I4O1I1D2OaHoO1J1K4O1J1K1O3D1E1DaH6O2hI7O5I2DyI1D1I5O1yIaOvI1OcD4OcD8O2KaHuI2O5IbO18I4Oq",
     "I6ObH11OnI5D4O1hIaD1OtD2O1DaH6OaHdO1I4K4OvD1dO5D1bIhD8I1O2KaH2K2O2KbO9D9O3K3DuIdD2IaH18IeDcO",
     "10IkD3O2K3OaH3O3IaH10I2K9G1N1G5O17I2O3IgO3D1OlD4I1D6I1D2I3D1I5O5cG1sD1N1G1N1G1N1G1N1G1N1G1N1",
     "G1N1G1N1G1N1G1N1G1N1G1N1G1N1G1N1G1N1G1N1G1N1G1N1G1N1G1N1G1N1G1N1G1N1G1N1G1N1G1N1G1N1G1N1G1N1",
     "G1N1G1N1G1N1G1N1G1N1G1N1G1N1G1N1G1N1G1N1G1N1G1N1G1N1G1N1G1N1G1N1G1N1G1N1G1N1G1N1G1N1G1N1G1N1",
     "G1N1G1N1G1N1G1N1G1N1G1N1G1N1G1N1G1N1G1N1G1N1G1N1G1N1G1N1G1N1G1N1G1N1G1N1G1N1G1N1G1N1G1N1G1N9",
     "G1N1G1N1G1N1G1N1G1N1G1N1G1N1G1N1G1N1G1N1G1N1G1N1G1N1G1N1G1N1G1N1G1N1G1N1G1N1G1N1G1N1G1N1G1N1",
     "G1N1G1N1G1N1G1N1G1N1G1N1G1N1G1N1G1N1G1N1G1N1G1N1G1N1G1N1G1N1G1N1G1N1G1N1G1N1G1N1G1N1G1N1G1N1",
     "G1N1G1N1G1N9G8N6G2O6N2O8G8N8G8N6G2O6N2O8G1O1N1O1N1O1N1O1N8G8NeG2O8G8N8G8N8G8N5G1O2G5N1O1G3O3",
     "G1O2G5N3O4G2O2G4N4O8G5N5O3G1O2G5N3ObM1E2D2E3O2J3O8C4O1A3O2L5E1M9O2C1O2K7O2C3KlO1M5E1OaE1O1Gb",
     "O2C1GdO2C1OdG1fOxDhO1N4O1N2O1G3N2G3N1G1O1N3O5N6O1N1O1N1O1N1O4N1O1G4N1G4I1G2O2G2N5O1N4G4O1GhO",
     "gNgG3I1N1G4IanO4CtO2CazOqNqGhdO6C7OeC27O2CvOaCb7OmC1rO4CwO2CeaO1cN1cG1N1G3N2G1N1G1N1G1N1G4N1",
     "G1N2G1N8G3N1G1N1G1N1G1N1G1N1G1N1G1N1G1N1G1N1G1N1G1N1G1N1G1N1G1N1G1N1G1N1G1N1G1N1G1N1G1N1G1N1",
     "G1N1G1N1G1N1G1N1G1N1G1N1G1N1G1N1G1N1G1N1G1N1G1N1G1N1G1N1G1N1G1N1G1N1G1N1G1N1G1N1G1N1G1N1G1N1",
     "G1N1G1N1G1N1G1N1G1N1G1N2G6O1N1G1N1G3D1N1G5O3K4O12G1O1G5O1G2O1kI7O1IfO1DnI9O7I1O7I1O7I1O7I1O7",
     "I1O7I1O7I1O7I1OwDeCeO2C2OaC4O1K1IcO1K5O1CgO2K8CbnO1M1J1K2O3IaC2O8C1O3C1O9I6D1O5I2O5I4O2eI2O2",
     "D2O3I1O2iI1O4I5O17I1O2mIhOwI1cOgIe8O534I1sOh3hI1vO1aI1O1K7hI1O2KgIaH2IkO1N1G1N1G1N1G1N1G1N1G",
     "1N1G1N1G1N1G1N1G1N1G1N1G1N1G1N1G1N1G1N1G1N1G1N1G1N1G1N1G1N1G1N1G1N1G1N1G1I4D1OaD1O1I1N1G1N1G",
     "1N1G1N1G1N1G1N1G1N1G1N1G1N1G1N1G1N1G1N1G1N1G1N3G2D28I2D1O1K3O1KvO9I2O1N1G1N1G1N1G1N1G1N1G1N1",
     "G1N3G1N1G1N1G1N1G1N1G1N1G1N1G1N1G1N1G1N1G1N1G1N1G1N1G1N1G1N1G1N1G1N1G1N1G1N1G1N1G1N1G1N1G1N1",
     "G1N1G1N1G1N1G1N1G1N1G1N1G1N1G1N1G1NaG1N1G1N1G2N1G1N1G1N1G1N1G1N1G1I2O1N1G1N1G1I1N1G1N3G1N1G1",
     "N1G1N1G1N1G1N1G1N1G1N1G1N1G1N1G1N1G5N1G5N1G1N1G1N1G1N1G1N1G1N1G1N1G1N1G4N1G1N1G2N1G2O1N1G1O1",
     "G1O1G1N1G1N1G1N1G1NlO3G1N1G1I3G7I1D3I1D4I1DnI5D4O1DjO1gI2O2K8O2D1eIiD8O2KaH6OiD6I3O1I1O2I1Da",
     "HsI8D1O1KnIdDcOtI3O4D1bIeD7O2K5O1IaH6O5I1DaIaH5I1O15IeD9O3I1D8I2D2OaH3O3KnI3O1I3D1eI1D1I3D2I",
     "2D5I2D1I1D1IoO3I2ObI5D2K3I2DaO6I2O6I2O6I9O7I1O7I1O17G1OeG6O28GzI8D1K2D2OaH6O8mcIcOnI4O1dI6is",
     "Oa6I2O2yI12O7GcO5G5O1I1DaI1OdI1O5I1O1I1O2I1O2I1O30IxOa3I2CgO1sI2O1iI14OcI4OgD2J1K2J2K2C7OgD1",
     "O2J2OgC2O2C7O2J1A1O2J2K1J6C4O1JcO5I1O3rI2O1E1O1K6O2C2O2J1A1OaH2J3O1K1OqN1C1O1C3OqG1C1O1C1O2C",
     "1K2C1J1O1kI2DvI3O6I2O6I2O6I2O3IsO3E4OcI1OqI1OjI1O2I1OfI2OeIyO3fI1xO1hI3sO1D3mOtI3O1dIfO1DvOw",
     "IdOuI5O12I5D5OuI2O10I4O8I1O5I16O14N14G26I2OaH6O10N4O10G4O14I8O1gIcObN1OfN1O7N1O2N1ObG1OfG1O7",
     "G1O2G3O1gIcO8nI9OmIaO8IoO1G2I3G1O16G1O9G1xO6I2O1I1O18I1O2I3O1I2OnIaOnI9OvI1tOjI1O2IaOmIaOqI1",
     "yO1kI6O2I1sO1I3D1O2D5O4D4I1O3I1OtI2O3D4O1DmO2K8OtI3OtIzO8I1OsI2DpO1iIaOmIaOjIdOiI32O21I1jO1f",
     "NdO1fGdO10I4D8OaH6OaH6ImN3O5D1O1ImG6yO16I1O2D3O2IgO3I1jO4DtIaO1I8OmIbD4O5KmOiI4D4K12OlIrOnI9",
     "O3D1hIfD2KtOaH1D2I2D1I9O4D19IbD2O1H4K1DaO1H2OpI7OaH6O3D10IeD1OaH1O3K1I2D1I8OzI1D2O1I9O3D1cIe",
     "D4I2K2O4D1K2DaH1I1O1I1O2KwOiI1OpIcD2K1O2K1O1D2I1D1qO7I1O1I1O4I1OfI1OaI1K6O1bIcD5OaH6O4D1O8I2",
     "O2I2OmI1O7I1O2I1O5I1O2D1I7D2O2D2O3D2O1I6O1D5O5I2D2O7D3O5DbOaI1O1I2O1I1O12I1O1I9D1O1D2O1D1O4D",
     "1O5D1I1D1I2KbO2DtO1hIiD4I2K3OaH4O1D3IuO1cIkD2I1O1I8OaH4mO1bI7D2O9D1O2K5OfK4I2DyO1cIhD2K1O1Ib",
     "OaH12O17IdD1I7OaH6OkHsOrI2OfD4OaH2O3K1O7I55O18IfD2tOwNwGaHlO8I2O1I2O8I1O2I1OoI6D1O2D2O4D1I1D",
     "1I2D1K1O1K9OaH1yO8I2O13I7D2O7D1I1O1I1DrO1IaD14I7D1I4D3O2K3O1D8O1IbD1aIgD1O2K1IiO21I5jOxIfOaH",
     "6O9I1O11I8D1O8D1I2KdOaHoOuI2OmD1OeD21O7I1O2I1O12I6D3O1D1O2D1O7D1I1D8OaH6O6I1O2I1OwI5D1O2D1O5",
     "D1I7OaH8mOjI4D2K7O2D1I1DdI1OyI7D3O5D2KbOaH1D2dO1I27OpmI2uO33IhO5gI218O2pIfOtsIgE1D6IfDaO32zI",
     "5Og7I5a1OuIiDaH1c6OftI7OvI1OaH4O2K27I1OaH6OuI2O5D1KaO1cI7D2K7O4I1KbOaH9OlI5OjIc0O19I1O2KaH5i",
     "OwNwGoO1K2vO23I4O1D1I1jD7O4DdI1sO2I1O1I1DbO2DeO4qgI8OyeI15OaI6w7O4I1O7I1O2I1O83IfO1ItO3I2O1I",
     "eO4I8Ob0I1s4O2zI5OdI3O9I7OaI3O2D1K4E37wOaHeeO1aD2OnDf2O5D3O6D8E8D2O7DuO4D44O3DcbOqNqGqN7G1Oi",
     "GqNqG1N1O2N2O1N2O2N2O4N1O8N4G1O1G1O7G1ObGqNqG2N1O4N2O8N1O7N1OqG2N1O4N1O5N1O1N3O7N1OqGqNqGqNq",
     "GqNqGqNqGqNqGqNsG2OpN1OpG1O6GpN1OpG1O6GpN1OpG1O6GpN1OpG1O6GpN1OpG1O6G1N1G2O1eHe8O1jD4O1eD8O1",
     "DeO1D3O1KiO5D1OfDuoOaG1IkG6O6G5xO7D1OhD2O7D1O2D1O5D5O1qGxO1D34O19I3O7D7I2OaH4O1I8xOuI1DhO18I",
     "4DaHd2OsI4DaH5yOuI2D1IaHdhO7I1O4I1O2I1OfI1O5hIbO7D15OyNyG7D1I4OaHx2O4I1OrI1O2I1O1I2O1I1OaI1O",
     "4I1O1I1O1I6O1I4O1I1O1I1O1I1O3I1O2I1O1I2O1I1O1I1O1I1O1I1O1I1O2I1O1I2O4I1O7I1O4I1O4I1O1I1OaI1O",
     "hI5O3I1O5I1OhIhgOqN6OqN6OqNz0O3C12vOaHsmOwyoIwO37eI6O66I2O4g2IeO5rlIfOhaI1wiOf2I15uO3t7I5O38",
     "gIf975O1EuO2oD3kO6oD47bkO"]

end Enumerated

end NestedRouting.Unicode
