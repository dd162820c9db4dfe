/-!
Powers of numbers, as they are computed.

Where algebra is at hand, a power could also be one of a monoid; here it never is.
-/

attribute [default_instance 20000, instance (20000)] instPowNat
