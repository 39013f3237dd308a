/-!
# Random bytes

The machine draws its random bytes one after the other from a source that is
fixed when the machine is built.  A source is an infinite sequence of bytes
together with the number of bytes drawn so far; nothing is assumed about the
sequence.  Which sequence belongs to a seed is up to the generator.
-/

namespace ChipEight

/-- A sequence of bytes, read from the front. -/
structure RandomBytes where
  /-- The byte at each place of the sequence. -/
  byteAt : Nat → UInt8
  /-- How many bytes have been drawn. -/
  drawn : Nat

namespace RandomBytes

/-- The next byte. -/
def next (source : RandomBytes) : UInt8 :=
  source.byteAt source.drawn

/-- The source after one more byte has been drawn. -/
def advance (source : RandomBytes) : RandomBytes :=
  { source with drawn := source.drawn + 1 }

/-- The given bytes over and over again; without any, all bytes are zero. -/
def cycle (bytes : Array UInt8) : RandomBytes where
  byteAt place := bytes[place % bytes.size]?.getD 0
  drawn := 0

/-- A generator of random bytes: what it draws for a seed, and what it draws without one. -/
abbrev Generator := Option Int → RandomBytes

end RandomBytes

end ChipEight
