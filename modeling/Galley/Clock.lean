/-! The moment that a session tells its guest. -/
namespace Galley

/-- Minutes since midnight, and a date. -/
structure Clock where
  minutes : Int32
  day : Int32
  month : Int32
  year : Int32

/-- Noon on the first day of 2026: the moment that is told where nobody knows a better one. -/
def Clock.fixed : Clock := { minutes := 720, day := 1, month := 1, year := 2026 }

end Galley
