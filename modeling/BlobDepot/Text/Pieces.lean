set_option autoImplicit false

namespace BlobDepot.Text

def pieces (mark : Char) : List Char -> List (List Char)
  | [] => [[]]
  | c :: rest =>
      if c = mark then [] :: pieces mark rest
      else
        match pieces mark rest with
        | [] => [[c]]
        | first :: others => (c :: first) :: others

end BlobDepot.Text
