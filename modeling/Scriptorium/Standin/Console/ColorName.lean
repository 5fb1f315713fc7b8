/-!
Names of colours on the console: a word, or a word and a number behind it. Shades of grey are
numbered by their lightness.
-/

namespace Scriptorium
set_option autoImplicit false

namespace ColorName

/-- The names without a number. -/
def plain : List String :=
  ["black", "blue", "blue_violet", "bright_black", "bright_blue", "bright_cyan", "bright_green",
    "bright_magenta", "bright_red", "bright_white", "bright_yellow", "cadet_blue",
    "cornflower_blue", "cyan", "dark_blue", "dark_cyan", "dark_goldenrod", "dark_green",
    "dark_khaki", "dark_magenta", "dark_orange", "dark_red", "dark_sea_green", "dark_turquoise",
    "dark_violet", "green", "green_yellow", "hot_pink", "indian_red", "light_coral", "light_green",
    "light_sea_green", "light_slate_blue", "light_slate_gray", "light_slate_grey",
    "light_steel_blue", "magenta", "medium_orchid", "medium_purple", "medium_spring_green",
    "medium_turquoise", "medium_violet_red", "navy_blue", "orchid", "purple", "red", "rosy_brown",
    "sandy_brown", "steel_blue", "tan", "violet", "white", "yellow"]

def shades : List Nat :=
  [0, 3, 7, 11, 15, 19, 23, 27, 30, 35, 37, 39, 42, 46, 50, 53, 54, 58, 62, 63, 66, 69, 70, 74, 78,
    82, 84, 85, 89, 93, 100]

/-- The names with a number, and their numbers. -/
def numbered : List (String × List Nat) :=
  [("aquamarine", [1, 3]), ("blue", [1, 3]), ("chartreuse", [1, 2, 3, 4]), ("cornsilk", [1]),
    ("cyan", [1, 2, 3]), ("dark_olive_green", [1, 2, 3]), ("dark_orange", [3]),
    ("dark_sea_green", [1, 2, 3, 4]), ("dark_slate_gray", [1, 2, 3]), ("deep_pink", [1, 2, 3, 4]),
    ("deep_sky_blue", [1, 2, 3, 4]), ("dodger_blue", [1, 2, 3]), ("gold", [1, 3]),
    ("gray", shades), ("green", [1, 3, 4]), ("grey", shades), ("honeydew", [2]),
    ("hot_pink", [2, 3]), ("indian_red", [1]), ("khaki", [1, 3]), ("light_cyan", [1, 3]),
    ("light_goldenrod", [1, 2, 3]), ("light_pink", [1, 3, 4]), ("light_salmon", [1, 3]),
    ("light_sky_blue", [1, 3]), ("light_steel_blue", [1, 3]), ("light_yellow", [3]),
    ("magenta", [1, 2, 3]), ("medium_orchid", [1, 3]), ("medium_purple", [1, 2, 3, 4]),
    ("misty_rose", [1, 3]), ("navajo_white", [1, 3]), ("orange", [1, 3, 4]), ("orange_red", [1]),
    ("orchid", [1, 2]), ("pale_green", [1, 3]), ("pale_turquoise", [1, 4]),
    ("pale_violet_red", [1]), ("pink", [1, 3]), ("plum", [1, 2, 3, 4]), ("purple", [3, 4]),
    ("red", [1, 3]), ("royal_blue", [1]), ("salmon", [1]), ("sea_green", [1, 2, 3]),
    ("sky_blue", [1, 2, 3]), ("slate_blue", [1, 3]), ("spring_green", [1, 2, 3, 4]),
    ("steel_blue", [1, 3]), ("thistle", [1, 3]), ("turquoise", [2, 4]), ("wheat", [1, 4]),
    ("yellow", [1, 2, 3, 4])]

def isName (s : String) : Bool :=
  s ∈ plain || numbered.any fun (word, numbers) => numbers.any fun n => s = word ++ toString n

end ColorName

end Scriptorium
