/-!
# Named values

Finite types whose values have names. A value is found by its exact name, and no two have the same.
-/

namespace PacketHeaders

class Named (α : Type) where
  all : List α
  name : α → String
  find?_name (value : α) : all.find? (name · == name value) = some value

def Named.find? (α : Type) [Named α] (text : String) : Option α :=
  (Named.all : List α).find? (Named.name · == text)

end PacketHeaders
