/-!
# Quoted text — a quote inside is written twice

Both kinds of quoting in the store's language follow one rule: the text stands between two quotes, and each quote
inside it is doubled.  Names take the double quote, text literals the single one.
-/
namespace Ormap
namespace Text

/-- The text with every `q` in it written twice. -/
def double (q : Char) : List Char → List Char
  | [] => []
  | c :: cs => if c = q then q :: q :: double q cs else c :: double q cs

/-- The same on strings. -/
def doubled (q : Char) (s : String) : String := String.ofList (double q s.toList)

/-- The text between two `q`, every `q` in it written twice. -/
def quoted (q : Char) (s : String) : String := String.ofList (q :: double q s.toList ++ [q])

end Text
end Ormap
