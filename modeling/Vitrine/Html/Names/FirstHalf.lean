/-!
# Named characters: names that begin with a small letter up to l

The names that HTML gives to characters, in code point order, each with its code point. A name is listed
without the semicolon that ends a reference to it.
-/

namespace Vitrine.Html.Names

/-- From `aacute` to `cupor`. -/
def firstHalfA : Array (String × Nat) := #[
  ("aacute", 0xe1), ("abreve", 0x103), ("ac", 0x223e), ("acd", 0x223f), ("acirc", 0xe2),
  ("acute", 0xb4), ("acy", 0x430), ("aelig", 0xe6), ("af", 0x2061), ("afr", 0x1d51e),
  ("agrave", 0xe0), ("alefsym", 0x2135), ("aleph", 0x2135), ("alpha", 0x3b1), ("amacr", 0x101),
  ("amalg", 0x2a3f), ("amp", 0x26), ("and", 0x2227), ("andand", 0x2a55), ("andd", 0x2a5c),
  ("andslope", 0x2a58), ("andv", 0x2a5a), ("ang", 0x2220), ("ange", 0x29a4), ("angle", 0x2220),
  ("angmsd", 0x2221), ("angmsdaa", 0x29a8), ("angmsdab", 0x29a9), ("angmsdac", 0x29aa),
  ("angmsdad", 0x29ab), ("angmsdae", 0x29ac), ("angmsdaf", 0x29ad), ("angmsdag", 0x29ae),
  ("angmsdah", 0x29af), ("angrt", 0x221f), ("angrtvb", 0x22be), ("angrtvbd", 0x299d),
  ("angsph", 0x2222), ("angst", 0xc5), ("angzarr", 0x237c), ("aogon", 0x105), ("aopf", 0x1d552),
  ("ap", 0x2248), ("apE", 0x2a70), ("apacir", 0x2a6f), ("ape", 0x224a), ("apid", 0x224b),
  ("apos", 0x27), ("approx", 0x2248), ("approxeq", 0x224a), ("aring", 0xe5), ("ascr", 0x1d4b6),
  ("ast", 0x2a), ("asymp", 0x2248), ("asympeq", 0x224d), ("atilde", 0xe3), ("auml", 0xe4),
  ("awconint", 0x2233), ("awint", 0x2a11), ("bNot", 0x2aed), ("backcong", 0x224c),
  ("backepsilon", 0x3f6), ("backprime", 0x2035), ("backsim", 0x223d), ("backsimeq", 0x22cd),
  ("barvee", 0x22bd), ("barwed", 0x2305), ("barwedge", 0x2305), ("bbrk", 0x23b5),
  ("bbrktbrk", 0x23b6), ("bcong", 0x224c), ("bcy", 0x431), ("bdquo", 0x201e), ("becaus", 0x2235),
  ("because", 0x2235), ("bemptyv", 0x29b0), ("bepsi", 0x3f6), ("bernou", 0x212c), ("beta", 0x3b2),
  ("beth", 0x2136), ("between", 0x226c), ("bfr", 0x1d51f), ("bigcap", 0x22c2),
  ("bigcirc", 0x25ef), ("bigcup", 0x22c3), ("bigodot", 0x2a00), ("bigoplus", 0x2a01),
  ("bigotimes", 0x2a02), ("bigsqcup", 0x2a06), ("bigstar", 0x2605), ("bigtriangledown", 0x25bd),
  ("bigtriangleup", 0x25b3), ("biguplus", 0x2a04), ("bigvee", 0x22c1), ("bigwedge", 0x22c0),
  ("bkarow", 0x290d), ("blacklozenge", 0x29eb), ("blacksquare", 0x25aa),
  ("blacktriangle", 0x25b4), ("blacktriangledown", 0x25be), ("blacktriangleleft", 0x25c2),
  ("blacktriangleright", 0x25b8), ("blank", 0x2423), ("blk12", 0x2592), ("blk14", 0x2591),
  ("blk34", 0x2593), ("block", 0x2588), ("bnot", 0x2310), ("bopf", 0x1d553), ("bot", 0x22a5),
  ("bottom", 0x22a5), ("bowtie", 0x22c8), ("boxDL", 0x2557), ("boxDR", 0x2554), ("boxDl", 0x2556),
  ("boxDr", 0x2553), ("boxH", 0x2550), ("boxHD", 0x2566), ("boxHU", 0x2569), ("boxHd", 0x2564),
  ("boxHu", 0x2567), ("boxUL", 0x255d), ("boxUR", 0x255a), ("boxUl", 0x255c), ("boxUr", 0x2559),
  ("boxV", 0x2551), ("boxVH", 0x256c), ("boxVL", 0x2563), ("boxVR", 0x2560), ("boxVh", 0x256b),
  ("boxVl", 0x2562), ("boxVr", 0x255f), ("boxbox", 0x29c9), ("boxdL", 0x2555), ("boxdR", 0x2552),
  ("boxdl", 0x2510), ("boxdr", 0x250c), ("boxh", 0x2500), ("boxhD", 0x2565), ("boxhU", 0x2568),
  ("boxhd", 0x252c), ("boxhu", 0x2534), ("boxminus", 0x229f), ("boxplus", 0x229e),
  ("boxtimes", 0x22a0), ("boxuL", 0x255b), ("boxuR", 0x2558), ("boxul", 0x2518),
  ("boxur", 0x2514), ("boxv", 0x2502), ("boxvH", 0x256a), ("boxvL", 0x2561), ("boxvR", 0x255e),
  ("boxvh", 0x253c), ("boxvl", 0x2524), ("boxvr", 0x251c), ("bprime", 0x2035), ("breve", 0x2d8),
  ("brvbar", 0xa6), ("bscr", 0x1d4b7), ("bsemi", 0x204f), ("bsim", 0x223d), ("bsime", 0x22cd),
  ("bsol", 0x5c), ("bsolb", 0x29c5), ("bsolhsub", 0x27c8), ("bull", 0x2022), ("bullet", 0x2022),
  ("bump", 0x224e), ("bumpE", 0x2aae), ("bumpe", 0x224f), ("bumpeq", 0x224f), ("cacute", 0x107),
  ("cap", 0x2229), ("capand", 0x2a44), ("capbrcup", 0x2a49), ("capcap", 0x2a4b),
  ("capcup", 0x2a47), ("capdot", 0x2a40), ("caret", 0x2041), ("caron", 0x2c7), ("ccaps", 0x2a4d),
  ("ccaron", 0x10d), ("ccedil", 0xe7), ("ccirc", 0x109), ("ccups", 0x2a4c), ("ccupssm", 0x2a50),
  ("cdot", 0x10b), ("cedil", 0xb8), ("cemptyv", 0x29b2), ("cent", 0xa2), ("centerdot", 0xb7),
  ("cfr", 0x1d520), ("chcy", 0x447), ("check", 0x2713), ("checkmark", 0x2713), ("chi", 0x3c7),
  ("cir", 0x25cb), ("cirE", 0x29c3), ("circ", 0x2c6), ("circeq", 0x2257),
  ("circlearrowleft", 0x21ba), ("circlearrowright", 0x21bb), ("circledR", 0xae),
  ("circledS", 0x24c8), ("circledast", 0x229b), ("circledcirc", 0x229a), ("circleddash", 0x229d),
  ("cire", 0x2257), ("cirfnint", 0x2a10), ("cirmid", 0x2aef), ("cirscir", 0x29c2),
  ("clubs", 0x2663), ("clubsuit", 0x2663), ("colon", 0x3a), ("colone", 0x2254),
  ("coloneq", 0x2254), ("comma", 0x2c), ("commat", 0x40), ("comp", 0x2201), ("compfn", 0x2218),
  ("complement", 0x2201), ("complexes", 0x2102), ("cong", 0x2245), ("congdot", 0x2a6d),
  ("conint", 0x222e), ("copf", 0x1d554), ("coprod", 0x2210), ("copy", 0xa9), ("copysr", 0x2117),
  ("crarr", 0x21b5), ("cross", 0x2717), ("cscr", 0x1d4b8), ("csub", 0x2acf), ("csube", 0x2ad1),
  ("csup", 0x2ad0), ("csupe", 0x2ad2), ("ctdot", 0x22ef), ("cudarrl", 0x2938),
  ("cudarrr", 0x2935), ("cuepr", 0x22de), ("cuesc", 0x22df), ("cularr", 0x21b6),
  ("cularrp", 0x293d), ("cup", 0x222a), ("cupbrcap", 0x2a48), ("cupcap", 0x2a46),
  ("cupcup", 0x2a4a), ("cupdot", 0x228d), ("cupor", 0x2a45)]

/-- From `curarr` to `homtht`. -/
def firstHalfB : Array (String × Nat) := #[
  ("curarr", 0x21b7), ("curarrm", 0x293c), ("curlyeqprec", 0x22de), ("curlyeqsucc", 0x22df),
  ("curlyvee", 0x22ce), ("curlywedge", 0x22cf), ("curren", 0xa4), ("curvearrowleft", 0x21b6),
  ("curvearrowright", 0x21b7), ("cuvee", 0x22ce), ("cuwed", 0x22cf), ("cwconint", 0x2232),
  ("cwint", 0x2231), ("cylcty", 0x232d), ("dArr", 0x21d3), ("dHar", 0x2965), ("dagger", 0x2020),
  ("daleth", 0x2138), ("darr", 0x2193), ("dash", 0x2010), ("dashv", 0x22a3), ("dbkarow", 0x290f),
  ("dblac", 0x2dd), ("dcaron", 0x10f), ("dcy", 0x434), ("dd", 0x2146), ("ddagger", 0x2021),
  ("ddarr", 0x21ca), ("ddotseq", 0x2a77), ("deg", 0xb0), ("delta", 0x3b4), ("demptyv", 0x29b1),
  ("dfisht", 0x297f), ("dfr", 0x1d521), ("dharl", 0x21c3), ("dharr", 0x21c2), ("diam", 0x22c4),
  ("diamond", 0x22c4), ("diamondsuit", 0x2666), ("diams", 0x2666), ("die", 0xa8),
  ("digamma", 0x3dd), ("disin", 0x22f2), ("div", 0xf7), ("divide", 0xf7),
  ("divideontimes", 0x22c7), ("divonx", 0x22c7), ("djcy", 0x452), ("dlcorn", 0x231e),
  ("dlcrop", 0x230d), ("dollar", 0x24), ("dopf", 0x1d555), ("dot", 0x2d9), ("doteq", 0x2250),
  ("doteqdot", 0x2251), ("dotminus", 0x2238), ("dotplus", 0x2214), ("dotsquare", 0x22a1),
  ("doublebarwedge", 0x2306), ("downarrow", 0x2193), ("downdownarrows", 0x21ca),
  ("downharpoonleft", 0x21c3), ("downharpoonright", 0x21c2), ("drbkarow", 0x2910),
  ("drcorn", 0x231f), ("drcrop", 0x230c), ("dscr", 0x1d4b9), ("dscy", 0x455), ("dsol", 0x29f6),
  ("dstrok", 0x111), ("dtdot", 0x22f1), ("dtri", 0x25bf), ("dtrif", 0x25be), ("duarr", 0x21f5),
  ("duhar", 0x296f), ("dwangle", 0x29a6), ("dzcy", 0x45f), ("dzigrarr", 0x27ff),
  ("eDDot", 0x2a77), ("eDot", 0x2251), ("eacute", 0xe9), ("easter", 0x2a6e), ("ecaron", 0x11b),
  ("ecir", 0x2256), ("ecirc", 0xea), ("ecolon", 0x2255), ("ecy", 0x44d), ("edot", 0x117),
  ("ee", 0x2147), ("efDot", 0x2252), ("efr", 0x1d522), ("eg", 0x2a9a), ("egrave", 0xe8),
  ("egs", 0x2a96), ("egsdot", 0x2a98), ("el", 0x2a99), ("elinters", 0x23e7), ("ell", 0x2113),
  ("els", 0x2a95), ("elsdot", 0x2a97), ("emacr", 0x113), ("empty", 0x2205), ("emptyset", 0x2205),
  ("emptyv", 0x2205), ("emsp", 0x2003), ("emsp13", 0x2004), ("emsp14", 0x2005), ("eng", 0x14b),
  ("ensp", 0x2002), ("eogon", 0x119), ("eopf", 0x1d556), ("epar", 0x22d5), ("eparsl", 0x29e3),
  ("eplus", 0x2a71), ("epsi", 0x3b5), ("epsilon", 0x3b5), ("epsiv", 0x3f5), ("eqcirc", 0x2256),
  ("eqcolon", 0x2255), ("eqsim", 0x2242), ("eqslantgtr", 0x2a96), ("eqslantless", 0x2a95),
  ("equals", 0x3d), ("equest", 0x225f), ("equiv", 0x2261), ("equivDD", 0x2a78),
  ("eqvparsl", 0x29e5), ("erDot", 0x2253), ("erarr", 0x2971), ("escr", 0x212f), ("esdot", 0x2250),
  ("esim", 0x2242), ("eta", 0x3b7), ("eth", 0xf0), ("euml", 0xeb), ("euro", 0x20ac),
  ("excl", 0x21), ("exist", 0x2203), ("expectation", 0x2130), ("exponentiale", 0x2147),
  ("fallingdotseq", 0x2252), ("fcy", 0x444), ("female", 0x2640), ("ffilig", 0xfb03),
  ("fflig", 0xfb00), ("ffllig", 0xfb04), ("ffr", 0x1d523), ("filig", 0xfb01), ("flat", 0x266d),
  ("fllig", 0xfb02), ("fltns", 0x25b1), ("fnof", 0x192), ("fopf", 0x1d557), ("forall", 0x2200),
  ("fork", 0x22d4), ("forkv", 0x2ad9), ("fpartint", 0x2a0d), ("frac12", 0xbd), ("frac13", 0x2153),
  ("frac14", 0xbc), ("frac15", 0x2155), ("frac16", 0x2159), ("frac18", 0x215b),
  ("frac23", 0x2154), ("frac25", 0x2156), ("frac34", 0xbe), ("frac35", 0x2157),
  ("frac38", 0x215c), ("frac45", 0x2158), ("frac56", 0x215a), ("frac58", 0x215d),
  ("frac78", 0x215e), ("frasl", 0x2044), ("frown", 0x2322), ("fscr", 0x1d4bb), ("gE", 0x2267),
  ("gEl", 0x2a8c), ("gacute", 0x1f5), ("gamma", 0x3b3), ("gammad", 0x3dd), ("gap", 0x2a86),
  ("gbreve", 0x11f), ("gcirc", 0x11d), ("gcy", 0x433), ("gdot", 0x121), ("ge", 0x2265),
  ("gel", 0x22db), ("geq", 0x2265), ("geqq", 0x2267), ("geqslant", 0x2a7e), ("ges", 0x2a7e),
  ("gescc", 0x2aa9), ("gesdot", 0x2a80), ("gesdoto", 0x2a82), ("gesdotol", 0x2a84),
  ("gesles", 0x2a94), ("gfr", 0x1d524), ("gg", 0x226b), ("ggg", 0x22d9), ("gimel", 0x2137),
  ("gjcy", 0x453), ("gl", 0x2277), ("glE", 0x2a92), ("gla", 0x2aa5), ("glj", 0x2aa4),
  ("gnE", 0x2269), ("gnap", 0x2a8a), ("gnapprox", 0x2a8a), ("gne", 0x2a88), ("gneq", 0x2a88),
  ("gneqq", 0x2269), ("gnsim", 0x22e7), ("gopf", 0x1d558), ("grave", 0x60), ("gscr", 0x210a),
  ("gsim", 0x2273), ("gsime", 0x2a8e), ("gsiml", 0x2a90), ("gt", 0x3e), ("gtcc", 0x2aa7),
  ("gtcir", 0x2a7a), ("gtdot", 0x22d7), ("gtlPar", 0x2995), ("gtquest", 0x2a7c),
  ("gtrapprox", 0x2a86), ("gtrarr", 0x2978), ("gtrdot", 0x22d7), ("gtreqless", 0x22db),
  ("gtreqqless", 0x2a8c), ("gtrless", 0x2277), ("gtrsim", 0x2273), ("hArr", 0x21d4),
  ("hairsp", 0x200a), ("half", 0xbd), ("hamilt", 0x210b), ("hardcy", 0x44a), ("harr", 0x2194),
  ("harrcir", 0x2948), ("harrw", 0x21ad), ("hbar", 0x210f), ("hcirc", 0x125), ("hearts", 0x2665),
  ("heartsuit", 0x2665), ("hellip", 0x2026), ("hercon", 0x22b9), ("hfr", 0x1d525),
  ("hksearow", 0x2925), ("hkswarow", 0x2926), ("hoarr", 0x21ff), ("homtht", 0x223b)]

/-- From `hookleftarrow` to `luruhar`. -/
def firstHalfC : Array (String × Nat) := #[
  ("hookleftarrow", 0x21a9), ("hookrightarrow", 0x21aa), ("hopf", 0x1d559), ("horbar", 0x2015),
  ("hscr", 0x1d4bd), ("hslash", 0x210f), ("hstrok", 0x127), ("hybull", 0x2043),
  ("hyphen", 0x2010), ("iacute", 0xed), ("ic", 0x2063), ("icirc", 0xee), ("icy", 0x438),
  ("iecy", 0x435), ("iexcl", 0xa1), ("iff", 0x21d4), ("ifr", 0x1d526), ("igrave", 0xec),
  ("ii", 0x2148), ("iiiint", 0x2a0c), ("iiint", 0x222d), ("iinfin", 0x29dc), ("iiota", 0x2129),
  ("ijlig", 0x133), ("imacr", 0x12b), ("image", 0x2111), ("imagline", 0x2110),
  ("imagpart", 0x2111), ("imath", 0x131), ("imof", 0x22b7), ("imped", 0x1b5), ("in", 0x2208),
  ("incare", 0x2105), ("infin", 0x221e), ("infintie", 0x29dd), ("inodot", 0x131), ("int", 0x222b),
  ("intcal", 0x22ba), ("integers", 0x2124), ("intercal", 0x22ba), ("intlarhk", 0x2a17),
  ("intprod", 0x2a3c), ("iocy", 0x451), ("iogon", 0x12f), ("iopf", 0x1d55a), ("iota", 0x3b9),
  ("iprod", 0x2a3c), ("iquest", 0xbf), ("iscr", 0x1d4be), ("isin", 0x2208), ("isinE", 0x22f9),
  ("isindot", 0x22f5), ("isins", 0x22f4), ("isinsv", 0x22f3), ("isinv", 0x2208), ("it", 0x2062),
  ("itilde", 0x129), ("iukcy", 0x456), ("iuml", 0xef), ("jcirc", 0x135), ("jcy", 0x439),
  ("jfr", 0x1d527), ("jmath", 0x237), ("jopf", 0x1d55b), ("jscr", 0x1d4bf), ("jsercy", 0x458),
  ("jukcy", 0x454), ("kappa", 0x3ba), ("kappav", 0x3f0), ("kcedil", 0x137), ("kcy", 0x43a),
  ("kfr", 0x1d528), ("kgreen", 0x138), ("khcy", 0x445), ("kjcy", 0x45c), ("kopf", 0x1d55c),
  ("kscr", 0x1d4c0), ("lAarr", 0x21da), ("lArr", 0x21d0), ("lAtail", 0x291b), ("lBarr", 0x290e),
  ("lE", 0x2266), ("lEg", 0x2a8b), ("lHar", 0x2962), ("lacute", 0x13a), ("laemptyv", 0x29b4),
  ("lagran", 0x2112), ("lambda", 0x3bb), ("lang", 0x27e8), ("langd", 0x2991), ("langle", 0x27e8),
  ("lap", 0x2a85), ("laquo", 0xab), ("larr", 0x2190), ("larrb", 0x21e4), ("larrbfs", 0x291f),
  ("larrfs", 0x291d), ("larrhk", 0x21a9), ("larrlp", 0x21ab), ("larrpl", 0x2939),
  ("larrsim", 0x2973), ("larrtl", 0x21a2), ("lat", 0x2aab), ("latail", 0x2919), ("late", 0x2aad),
  ("lbarr", 0x290c), ("lbbrk", 0x2772), ("lbrace", 0x7b), ("lbrack", 0x5b), ("lbrke", 0x298b),
  ("lbrksld", 0x298f), ("lbrkslu", 0x298d), ("lcaron", 0x13e), ("lcedil", 0x13c),
  ("lceil", 0x2308), ("lcub", 0x7b), ("lcy", 0x43b), ("ldca", 0x2936), ("ldquo", 0x201c),
  ("ldquor", 0x201e), ("ldrdhar", 0x2967), ("ldrushar", 0x294b), ("ldsh", 0x21b2), ("le", 0x2264),
  ("leftarrow", 0x2190), ("leftarrowtail", 0x21a2), ("leftharpoondown", 0x21bd),
  ("leftharpoonup", 0x21bc), ("leftleftarrows", 0x21c7), ("leftrightarrow", 0x2194),
  ("leftrightarrows", 0x21c6), ("leftrightharpoons", 0x21cb), ("leftrightsquigarrow", 0x21ad),
  ("leftthreetimes", 0x22cb), ("leg", 0x22da), ("leq", 0x2264), ("leqq", 0x2266),
  ("leqslant", 0x2a7d), ("les", 0x2a7d), ("lescc", 0x2aa8), ("lesdot", 0x2a7f),
  ("lesdoto", 0x2a81), ("lesdotor", 0x2a83), ("lesges", 0x2a93), ("lessapprox", 0x2a85),
  ("lessdot", 0x22d6), ("lesseqgtr", 0x22da), ("lesseqqgtr", 0x2a8b), ("lessgtr", 0x2276),
  ("lesssim", 0x2272), ("lfisht", 0x297c), ("lfloor", 0x230a), ("lfr", 0x1d529), ("lg", 0x2276),
  ("lgE", 0x2a91), ("lhard", 0x21bd), ("lharu", 0x21bc), ("lharul", 0x296a), ("lhblk", 0x2584),
  ("ljcy", 0x459), ("ll", 0x226a), ("llarr", 0x21c7), ("llcorner", 0x231e), ("llhard", 0x296b),
  ("lltri", 0x25fa), ("lmidot", 0x140), ("lmoust", 0x23b0), ("lmoustache", 0x23b0),
  ("lnE", 0x2268), ("lnap", 0x2a89), ("lnapprox", 0x2a89), ("lne", 0x2a87), ("lneq", 0x2a87),
  ("lneqq", 0x2268), ("lnsim", 0x22e6), ("loang", 0x27ec), ("loarr", 0x21fd), ("lobrk", 0x27e6),
  ("longleftarrow", 0x27f5), ("longleftrightarrow", 0x27f7), ("longmapsto", 0x27fc),
  ("longrightarrow", 0x27f6), ("looparrowleft", 0x21ab), ("looparrowright", 0x21ac),
  ("lopar", 0x2985), ("lopf", 0x1d55d), ("loplus", 0x2a2d), ("lotimes", 0x2a34),
  ("lowast", 0x2217), ("lowbar", 0x5f), ("loz", 0x25ca), ("lozenge", 0x25ca), ("lozf", 0x29eb),
  ("lpar", 0x28), ("lparlt", 0x2993), ("lrarr", 0x21c6), ("lrcorner", 0x231f), ("lrhar", 0x21cb),
  ("lrhard", 0x296d), ("lrm", 0x200e), ("lrtri", 0x22bf), ("lsaquo", 0x2039), ("lscr", 0x1d4c1),
  ("lsh", 0x21b0), ("lsim", 0x2272), ("lsime", 0x2a8d), ("lsimg", 0x2a8f), ("lsqb", 0x5b),
  ("lsquo", 0x2018), ("lsquor", 0x201a), ("lstrok", 0x142), ("lt", 0x3c), ("ltcc", 0x2aa6),
  ("ltcir", 0x2a79), ("ltdot", 0x22d6), ("lthree", 0x22cb), ("ltimes", 0x22c9),
  ("ltlarr", 0x2976), ("ltquest", 0x2a7b), ("ltrPar", 0x2996), ("ltri", 0x25c3),
  ("ltrie", 0x22b4), ("ltrif", 0x25c2), ("lurdshar", 0x294a), ("luruhar", 0x2966)]

/-- The names that begin with a small letter up to l. -/
def firstHalf : Array (String × Nat) :=
  firstHalfA ++ firstHalfB ++ firstHalfC

end Vitrine.Html.Names
