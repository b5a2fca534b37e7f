import Stepwise.Unicode.Category

/-!
# Ages

The age of a character is the version of the standard that first had it. The
characters of a version are those of that age and of all ages before it.
-/

namespace Stepwise.Unicode

/-- The runs of ages, from the first code point to the last, each by its letter. -/
def ageTable : String :=
  "1f6A4D1eA8DFG12D3GbHeI59A5D2G2fADaA5D11G46A9DF8G5H3G2ADdF4J2A2J2zA3IAP4z7AzAz14Az2cAJ
    7AD2FADADADAD12A2EF5G4HDcAD42ADcAD29AJ2D2F4D35A2F2A2F2A2FI1cA2D8A2H2A6I10F4I10J2K2L8
    Pz26A2z7AT27ATAD2z2PMz11BHdBaAI9AB3H8z1bA4zT5Abz4GMP5JHA9G5JAOXHAL1aA5J13A3D3G6HLeA2
    F48A2D5ADfAD1eA2GaA5DGeDz1eD3G1bD2z3G1eH12J31DFez3bI2z3T2eK2zfKz1cL2zLzbS5z1fXz2X5zy
    8XMPbM6P2QX8RaWbXTfRQ1bMPK3AG35A2L12AKL5AK2L19A2J5LP2K2IH2IP3Az8A2z2A2z16Az7AzA3z4A2
    zAG7A2z2A2z3AH8zA4z2Az5A2z15AK2ST2zGAGz6A4z2A2z16Az7Az2Az2Az2A2zAz5A4z2A2z3A3zJ7z4Az
    A7zfAJTaz3Az7AGAz3Az16Az7Az2Az5A2zaAz3Az3A2zAfzA3G2zaAMG7zQ6Sz3Az8A2z2A2z16Az7Az2AzG
    4A2z8AJ2z2A2z3A7zW2A4z2Az3A2J2zbAG6Laz2Az6A3z3Az4A3z2AzAz2A3z2A3z3A3z8AH3A4z5A3z3Az4
    A2zJ6zAezHcA8G5zP3AT8Az3Az17AzaAP5A2zXJ7Az3Az4A7z2Az2JQ2zX2z2A2J2zaA7zU8JRP2AT8Az3Az
    17AzaAz5A2z2G7Az3Az4A7z2A6zXAz2A2I2zaAz2IYczSP2AW8Az3Az17AL10AL2SJ6AJz3Az4ALR4z3RA7R
    Q2A2J2zaA6J3R7JzW2Dz12D3z18Dz9DzD2z7D3zD4z6DzDz8D6zaP2z3Dcz3aA4z1dA25z2AzAzU2AUAzUA6
    U4AU7AU3AzAzA2U2AUdAU3A2z5AzAz6AYzaA2z2A2M20z48Bz21BD2J4z1bB4L6BDBz15B3D7BDB3DzfDzJD
    2H3J4K2L25z22DJ5DJ2DJ7D3J4D6J1aD40J4K2J26AzM5zM2z27A2F2HAH3M5aA5K44A5K52A6K7DH3fDHDz
    4D2z7DzDz4D2z27DHDz4D2z1fDHDz4D2z7DzDz4D2z7DH7Dz17DH1fDHDz4D2z7DH27DH13D2z2L2H1cD3z1
    aH6z55DQ2z6Q2zK276D9K1dD3z51D8P7zdFX7FX9zX17F9z14FczdFz3Fz2Fcz5dDG2zaD6zaG6zfDXaD6z5
    8DT7z2aDJ5z46Kaz1dG2PzcG4zcG4zG3z2aG2z5Gbz2aH2K4z1aH6zaHK3z2H20G1cH2z2H3fKz1dK2zbK6z
    aK6zeK2zfP2WeX31z4cIXz2y2dI2Xy2bJ3McJ6M34L8z4L38J3zfJ3z33J9R2y5z2bT2z3T8M8z23K4MS2PU
    5z6cG58H7I1cJfP4SXRLK2I9bAB4J5aA6J16A2z6A2z26A2z6A2z8AzAzAzAz1fA2z35AzfAzeA2z6Az13A2
    z3Az9Az2fAD17AF6D5F2G2HF7H5FJz4O7AF2z1bAz5H8L3zbABC3D2F4H3KLN3PQSXfz12A2D7FH4IJfz39A
    2DGHfFH2IJ3K30ADI4JK2Q4z5bA9DcFf2AeFAD79ADF1eD34F2GbHcIKbL7P4RS25A2D3y16zbA15z8bA14F
    G96AaF50A8D8F14A2G2FHD56A2DcF2HaF8GbHJ2K2G10HIaJ3K4JaKL13KLK4L18KP4AL4A2L1cAL23ALAL4
    A3LAK7A2L7AeF1fA3L18ALeAL7H4IMJM2L1cF4J10F100D200FeG6H7I5J4I29J3P5J5K1aP2z20PzW22P3T
    cPU8PS19T4QfTU2fHX2fHXdI3JK3J4I6J2K6bH7K2M5z2dHzM5zM2z36H2M7zHLezL17H9z7Hz7Hz7Hz7Hz7
    Hz7Hz7Hz7Hz20J18H4J2H13JKaM7P2R5S5TU3WbX22z1aDz59Dczd6D1azcD4Z38A3D3FDAz54A2F2z6A2F5
    eAF5z28AJSTz5eAz10A18D3L5W10H14J2y9zZ10F1dA2Gz24AcKGfF1cA2GH32AfFcA4G2fAV77A4G63A2G1
    fAG19b6DaW40G51a6A16H8J8KM9Q15S5TdW3X48dD3z12D2F10DFcDF3DFD9z30K12cJ14z20J2L12J8M1cJ
    6PQM58K8z17H4I5J2I6bJ2LQ2L2McPaLM3PRT2P6Q2T6U2X5U4W3y2z2XzXz5X3y15z3X2WP2ML5J2cHW3za
    K6z38I8z45JR8zcJ6z1cK2Q2T54JbzJ1dK3z4eKzbK4z2K1fPz37J9zeJ2zaJ2z4J1cK4P43K18z5K17Maz6
    L2z6L2z6L9z7Lz7Lz30P4Q2P2U4W4z50Q2eK2zaK6z2ba4Bcz17K4z31K4z800B1a2eA2M3bF3K2z6aH26z7
    Acz5A5zD19Az5AzAz2Az2Az6cA10LX10z16dA10X40A2z36A7zX20EcAFG2X10FaH6z4A3J7P2Q15A2F2GaA
    z13Az4A4z3AFAz87A2zAz5eA2F5eA3z6A2z6A2z6A2z3A3z7Az7Aaz3DC3AcGz1aGz13Gz2GzfG2zeG22z7b
    G5z3G4z2dG3z9G4bH2P2RzcJW3zP2fz2eJ82z1dJ3z31Jfz1cP4z1fEP4E9z3S1bE5z2bP5z1eGzG24H4zeH
    2az26E2G26E50G2zaG6z24R4z24R4z28P8z34PbzPbXzfXz7Xz2XzbXzfXz7Xz2X3z34ycz137P9z16Paz8P
    18z6Xz2aXz9X45z6G2zGz2cGz2G3zG2zG16Kz9K3fP8z9P30z13Qz2Q5z5Q1aI2K3zI1aJ5zJ40z38M4z2Q2
    M10Q2z2eQ4Hz2H5z8Hz3Hz1bH2T2z3H4z9HT7z9H7z20K20P20z27P4zcP9z36K3z1dK2z1bK5z8K12P7z4P
    cz7P50z49K37z33Qdz33Q7z6Q28T8zaT6z26y3z1dy8z2yd0z1fKz2aWz3W2z2W10z3y37zy3Y28T8z2aT16
    z1aX26z1cW14z17U9z4eL4z1eL6X9zP42KXazT2z19M7zaM6z35MzeM3TW8z27P9z49M4QP2WaMP5Qz14Pbz
    12Pz2bPR3Y3ez7QzQz4QzfQzbQ6z3bP5zaP6zQ3Pz8P2z2P2z16Pz7Pz2Pz5PzT9P2z2P2z3P2zQ6zP5z7P2
    z7P3z5Pbzayzy2zyz26yzayzy2zyz4yzayz2y8z2y1dz5aRWRzRTU2W1ez48P8zaPa6z36P2z12P14Q22z45
    PbzaP6zdR13z38MUX6zaM6z14y1cz1aQT2zfQ4z10Q7Xb9z3cT64z53PczP7W2zW2z8Wz2Wz1eWz2W2zcW9z
    aW46z8U2z2eU2zbU1bz48S8z34S2U17ST5Sdz10X39P7zaYb6z22yezay6z9Rz2dRzeRaz1dR3z20R2z16Rz
    eR49z7Sz2Sz2cS3zSz2Sz9S8zaS6z6Tz2Tz25Tz2Tz6T7zaT136z19T7z11Yz29Y3z1cYy55zWfz32UdzU36
    fI2aPQ66z63IcPz4IPbzc4Qa4cz63Xdz42fKY9U1dYazf9by5z247Q1ab9z3ay6c6z239L7z1fPzaP4z2P4f
    XzaX6z1eP2z6Paz46PazaPz7Pz15P5z13P1b0z3ayc6z5bT65z45M6U4zU2fM9U7z11M40zRS2UWbz2Wez17
    edR5T6U8z2f3R1e3W29zy9W22e7z4Xz7Xz2Xz2L11dS4XfzY1dz3U2zYez4U8z18cS904z6bP5zdP3z9P7za
    P2z8Pf5czfay6z1b4y4cz2eX2z17X9z74X3czf6Eaz27E2zJb4EbQ2X15z46H7az14Ycz14Tcz57G9z12I7T
    87z55Ez47Ez2E2zE2z2E2z4EzcEzEz4EG2Ez41Ez4E2z8Ez7Ez1cEz4Ez5EzE3z7Ez152E2H2z122E2I2z32
    E28cQfz5QzfQ450z1fX6z6Yd5z7Rz11R2z7Rz2Rz5R5z3eY21zY70z2dU3zeU2zaU4z2U140z1fX11z3aU5z
    U1d0z2aYd6z2by4zy1e0z7Xz4Xz2XzfXzc5P2z10P29z4bRU4zaR4z2R311z44T4cz3dUc2z4Mz1bMz2MzM2
    zMzaMz4MzMzM6zM4zMzMzMz3Mz2MzM2zMzMzMzMzMz2MzM2z4Mz7Mz4Mz4MzMzaMz11M5z3Mz5Mz11M34z2M
    10ez2cJ4z64JczfL2zeLPzfLzfL16PazbK2P3W1fKTLKbLKLK2LK3LK3L5K8LK7LKaL2MU3W9LKL2K2LKaL4
    K2LKaL12RW38z1aLK2Ldz22K9LR4z9K7z2Lez6S9az21LcP3Q6LP46LP2Q14LcP25LP5L4P5QcP11L7P8Q3f
    LPLPb6LP4L2PQ3eL2P4M7P5Q18L12PR29PR56P5LM10LM3LMLMLMLM3LM6L2M4LML2M4LMcL2P2QbL30P46L
    aPQ2R2SU2W4zY3XdP3z4P3R2STU2W3z74L3Y4z5Y55P4TY6zcU4zXfzcP4z38P8zaP6z28P8z1eP2z2Way4z
    2y3ezcSW3U9Q6RS8R8SR2ScRUcRS3TfRdS5TUW4T2WXTU4T5QdR6SbT2W6U3W2UaT6UQ2T8UWX3U17S19T54
    UczeT2z4UW3Y3U2X3z3U4W2Yy5zy6U13W4X3Y7W4X3YyY3W3Xy7z2Y7W3X2Yy2zy8XYy6z7X2Y7z93Wz37W2
    5yaW404z2Ba6d7E7W2X20z1035K4XY6zdeL2z1682Qez1d31Sfz26eZ9a2z21eE5e0z2B134bW5z1060Ydc4
    ez2Bfffez2Bfffez2Bfffez2Bfffez2Bfffez2Bfffez2Bfffez2Bfffez2Bfffez2Bfffez2BzE1ez60E80
    zf0Gfe0ez20002B"

/-- The versions in their order: the letter of each, and the names under which it
may be asked for. -/
def versions : List (String × List String) :=
  [("A", ["1.1", "v11"]), ("B", ["2.0", "v20"]), ("C", ["2.1", "v21"]), ("D", ["3.0",
    "v30"]), ("E", ["3.1", "v31"]), ("F", ["3.2", "v32"]), ("G", ["4.0", "v40"]), ("H",
    ["4.1", "v41"]), ("I", ["5.0", "v50"]), ("J", ["5.1", "v51"]), ("K", ["5.2",
    "v52"]), ("L", ["6.0", "v60"]), ("M", ["6.1", "v61"]), ("N", ["6.2", "v62"]), ("O",
    ["6.3", "v63"]), ("P", ["7.0", "v70"]), ("Q", ["8.0", "v80"]), ("R", ["9.0",
    "v90"]), ("S", ["10.0", "v100"]), ("T", ["11.0", "v110"]), ("U", ["12.0", "v120"]),
    ("V", ["12.1", "v121"]), ("W", ["13.0", "v130"]), ("X", ["14.0", "v140"]), ("Y",
    ["15.0", "v150"]), ("Z", ["15.1", "v151"]), ("y", ["16.0", "v160"])]

/-- The characters that a version of the standard has. -/
def age? (name : String) : Option CharSet :=
  if versions.any fun v => v.2.contains name then
    let later := (versions.dropWhile fun v => !v.2.contains name).tail
    let old := versions.filter fun v => !later.contains v
    some (CharSet.ofRanges ((readRuns 1 ageTable).filterMap fun r =>
      if old.any fun v => v.1 == r.1 then some r.2 else none))
  else none

end Stepwise.Unicode
