import Notices.Text.Class
import Notices.Text.DecimalDigit

/-!
# Masked recipients

Recipients are shown in part only.  `Mask.phone` shows the country code, if
there is one, and the last two characters of a number; `Mask.email` shows the
first character of the local part and the domain.
-/

namespace Notices.Mask

/-- What stands for a recipient of which nothing is shown. -/
def hidden : List Char := "••••".toList

/-- What stands for the hidden part of a number. -/
def hiddenDigits : List Char := "••• •• ".toList

/-- A plus and the one to three digits behind it, at the front of a number. -/
def countryCode : List Char → List Char
  | '+' :: rest =>
    let code := (rest.take 3).takeWhile Text.isDecimalDigit
    if code.isEmpty then [] else '+' :: code
  | _ => []

/-- A number of which the country code and the last two characters are shown.
Nothing is shown of a number of at most four characters. -/
def phone (s : List Char) : List Char :=
  let number := s.filter (· != ' ')
  if s.isEmpty then []
  else if number.length ≤ 4 then hidden
  else
    let code := countryCode number
    (if code.isEmpty then [] else code ++ [' ']) ++ hiddenDigits ++
      number.drop (number.length - 2)

/-- An address of which the first character and the domain are shown.  Nothing
is shown of a text that is no address. -/
def email (s : List Char) : List Char :=
  let domain := s.dropWhile (· != '@')
  if s.isEmpty then []
  else if domain.isEmpty then hidden
  else (s.takeWhile (· != '@')).take 1 ++ "•••".toList ++ domain

end Notices.Mask
