/-
  Munch.Demo — a demonstration: a few sources with their tokens.
-/

import Munch.Token.Dump
import Munch.Token.Stream

namespace Munch.Demo

def snippets : List (String × String) :=
  [("Let binding", "let five = 5;"),
    ("Function literal", "let add = fn(x, y) \x7b x + y; \x7d;"),
    ("Conditional", "if (5 < 10) \x7b\n    return true;\n\x7d else \x7b\n    return false;\n\x7d"),
    ("Comparisons", "10 == 10; 10 != 9; !true"),
    ("Illegal input", "let x = 5 @ 3;")]

def entry (title source : String) : List String :=
  ["=== " ++ title ++ " ===", source, "---", dump (tokenize source), ""]

def output : String := unlines (snippets.flatMap fun (title, source) => entry title source)

end Munch.Demo
