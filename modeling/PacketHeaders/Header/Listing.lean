/-!
# Header texts

A header is shown as its title, one indented line `name=value` for each field, and a closing brace.
The text does not end in a line break.
-/

namespace PacketHeaders

structure Listing where
  title : String
  lines : List (String × String)

def Listing.text (listing : Listing) : String :=
  listing.title ++ " header \x7b\n" ++
    String.join (listing.lines.map fun (name, value) => "\t" ++ name ++ "=" ++ value ++ "\n") ++
    "\x7d"

end PacketHeaders
