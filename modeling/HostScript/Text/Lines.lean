/-!
# Lines of a text

A line ends after a line feed; what stands behind the last line feed is a line only if it is not
empty.
-/
namespace HostScript.Text

/-- The number of lines in a list of characters; `begun` says whether the first of them has begun. -/
def countLines (begun : Bool) : List Char → Nat
  | [] => if begun then 1 else 0
  | c :: cs => if c = '\n' then countLines false cs + 1 else countLines true cs

def lineCount (s : String) : Nat := countLines false s.toList

end HostScript.Text
