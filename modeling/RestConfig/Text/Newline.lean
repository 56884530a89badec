/-!
# Line ends read in text mode

A file read in text mode has its line ends made uniform: a carriage return followed by a
line feed, and a carriage return alone, each become one line feed. A reader that gets
the text in parts holds a carriage return at the end of a part back until it knows what
follows it, so a pair is never cut in two.
-/

namespace RestConfig.Text

def universalNewlines : List Char → List Char
  | '\r' :: '\n' :: rest => '\n' :: universalNewlines rest
  | '\r' :: rest => '\n' :: universalNewlines rest
  | c :: rest => c :: universalNewlines rest
  | [] => []

end RestConfig.Text
