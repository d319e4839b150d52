import Vetted.Text.Basic

namespace Vetted.Text

/-- Characters that take two columns, in order. -/
def wideLines : List String :=
  ["1100-115f 231a-231b 2329-232a 23e9-23ec 23f0 23f3 25fd-25fe 2614-2615 2648-2653 267f 2693",
    "26a1 26aa-26ab 26bd-26be 26c4-26c5 26ce 26d4 26ea 26f2-26f3 26f5 26fa 26fd 2705 270a-270b",
    "2728 274c 274e 2753-2755 2757 2795-2797 27b0 27bf 2b1b-2b1c 2b50 2b55 2e80-2e99 2e9b-2ef3",
    "2f00-2fd5 2ff0-2ffb 3000-3029 302e-303e 3041-3096 309b-30ff 3105-312f 3131-318e 3190-31e3",
    "31f0-321e 3220-3247 3250-4dbf 4e00-a48c a490-a4c6 a960-a97c ac00-d7a3 f900-faff fe10-fe19",
    "fe30-fe52 fe54-fe66 fe68-fe6b ff01-ff60 ffe0-ffe6 16fe0-16fe3 16ff0-16ff1 17000-187f7",
    "18800-18cd5 18d00-18d08 1aff0-1aff3 1aff5-1affb 1affd-1affe 1b000-1b122 1b150-1b152",
    "1b164-1b167 1b170-1b2fb 1f004 1f0cf 1f18e 1f191-1f19a 1f200-1f202 1f210-1f23b 1f240-1f248",
    "1f250-1f251 1f260-1f265 1f300-1f320 1f32d-1f335 1f337-1f37c 1f37e-1f393 1f3a0-1f3ca",
    "1f3cf-1f3d3 1f3e0-1f3f0 1f3f4 1f3f8-1f43e 1f440 1f442-1f4fc 1f4ff-1f53d 1f54b-1f54e",
    "1f550-1f567 1f57a 1f595-1f596 1f5a4 1f5fb-1f64f 1f680-1f6c5 1f6cc 1f6d0-1f6d2 1f6d5-1f6d7",
    "1f6dd-1f6df 1f6eb-1f6ec 1f6f4-1f6fc 1f7e0-1f7eb 1f7f0 1f90c-1f93a 1f93c-1f945 1f947-1f9ff",
    "1fa70-1fa74 1fa78-1fa7c 1fa80-1fa86 1fa90-1faac 1fab0-1faba 1fac0-1fac5 1fad0-1fad9",
    "1fae0-1fae7 1faf0-1faf6 20000-2fffd 30000-3fffd"]

def wideRanges : Ranges := .ofLines wideLines

def charWidth (c : Char) : Nat := if 128 ≤ c.toNat && wideRanges.contains c.toNat then 2 else 1

def width (s : String) : Nat := total (s.toList.map charWidth)

end Vetted.Text
