namespace Allowlist.Text

def sortDistinct (ss : List String) : List String := ss.eraseDups.mergeSort fun a b => !(b < a)

end Allowlist.Text
